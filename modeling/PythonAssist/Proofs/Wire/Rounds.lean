import Mathlib.Data.List.Infix
import PythonAssist.Proofs.Wire.Stream

set_option autoImplicit false

namespace PythonAssist

namespace Frame

section FeedAll

variable {S A : Type} (step : String → S → S) (stopped : S → Bool)

def feedAll : Bytes → List Bytes → S → Bytes × S
  | buffer, [], state => (buffer, state)
  | buffer, piece :: rest, state =>
    if stopped state then (buffer, state)
    else
      let (buffer, state) := feed step stopped (buffer ++ piece) state
      feedAll buffer rest state

variable {step stopped}

theorem feedAll_map {note : String → A → A} {ended : A → Bool} {view : A → S}
    (steps : ∀ body seen, view (note body seen) = step body (view seen))
    (stops : ∀ seen, stopped (view seen) = ended seen) (pieces : List Bytes) (buffer : Bytes)
    (seen : A) :
    feedAll step stopped buffer pieces (view seen) =
      Prod.map id view (feedAll note ended buffer pieces seen) := by
  induction pieces generalizing buffer seen with
  | nil => rfl
  | cons piece rest ih =>
    simp only [feedAll, stops]
    split
    next => rfl
    next => rw [feed_map steps stops, ← ih]; rfl

theorem feedAll_stopped {state : S} (stop : stopped state = true) (buffer : Bytes)
    (pieces : List Bytes) : feedAll step stopped buffer pieces state = (buffer, state) := by
  cases pieces <;> simp [feedAll, stop]

end FeedAll

section Collect

variable (final : String → Bool)

def note (body : String) (seen : List String) : List String := seen ++ [body]

def hasEnded (seen : List String) : Bool := seen.any final

def collect (pieces : List Bytes) : Bytes × List String :=
  feedAll note (hasEnded final) [] pieces []

def upTo : List String → List String
  | [] => []
  | body :: rest => if final body then [body] else body :: upTo rest

-- What a round leaves of a stream when so many bytes are still to come. Behind a body that ends
-- the session nothing counts.
def leftover (toCome : Nat) : List Segment → List Segment
  | [] => []
  | segment :: rest =>
    if (Segment.joined rest).length < toCome then segment :: rest
    else
      match segment.body with
      | none => rest
      | some body => if final body then [] else leftover toCome rest

def leftoverAll : List Bytes → List Segment → List Segment
  | [], stream => stream
  | _ :: rest, stream => leftoverAll rest (leftover final rest.flatten.length stream)

def bodies (stream : List Segment) : List String := stream.filterMap Segment.body

variable {final}

@[simp]
theorem hasEnded_note (body : String) (seen : List String) :
    hasEnded final (note body seen) = (hasEnded final seen || final body) := by
  simp [hasEnded, note]

@[simp]
theorem note_append (body : String) (seen texts : List String) :
    note body seen ++ texts = seen ++ body :: texts := by
  simp [note]

theorem leftover_suffix (toCome : Nat) (stream : List Segment) :
    leftover final toCome stream <:+ stream := by
  induction stream with
  | nil => exact List.suffix_refl _
  | cons segment rest ih =>
    unfold leftover
    repeat' split
    · exact List.suffix_refl _
    · exact List.suffix_cons _ _
    · exact List.nil_suffix
    · exact ih.trans (List.suffix_cons _ _)

structure GotTo (final : String → Bool) (stream : List Segment) (seen : List String)
    (rest : List Segment) (reader : Bytes × List String) (missing : Bytes) : Prop where
  given : reader.2 ++ upTo final (bodies rest) = seen ++ upTo final (bodies stream)
  left : hasEnded final reader.2 = true ∧ rest = [] ∨
    hasEnded final reader.2 = false ∧ reader.1 ++ missing = Segment.joined rest

theorem feed_gotTo {stream : List Segment} (readable : ∀ segment ∈ stream, segment.Readable)
    {buffer missing : Bytes} (cut : buffer ++ missing = Segment.joined stream)
    {seen : List String} (goes : hasEnded final seen = false) :
    GotTo final stream seen (leftover final missing.length stream)
      (feed note (hasEnded final) buffer seen) missing := by
  induction stream generalizing buffer seen with
  | nil =>
    obtain ⟨rfl, rfl⟩ := List.append_eq_nil_iff.mp cut
    rw [feed_nil]
    exact ⟨rfl, .inr ⟨goes, rfl⟩⟩
  | cons segment behind ih =>
    have first := readable segment List.mem_cons_self
    have others := fun other member => readable other (List.mem_cons_of_mem _ member)
    obtain ⟨come, rfl, remaining⟩ | ⟨more, filled, whole, rfl⟩ := whole_or_part cut
    next =>
      have complete : ¬ (Segment.joined behind).length < missing.length := by
        rw [← remaining, List.length_append]
        omega
      cases hasBody : segment.body with
      | none =>
        have dropped : leftover final missing.length (segment :: behind) = behind := by
          simp [leftover, hasBody, complete]
        rw [feed_block first hasBody, dropped]
        exact ⟨by simp [bodies, hasBody], .inr ⟨goes, remaining⟩⟩
      | some body =>
        rw [feed_frame first hasBody]
        by_cases ends : final body
        next =>
          have nothing : leftover final missing.length (segment :: behind) = [] := by
            simp [leftover, hasBody, complete, ends]
          have stop : hasEnded final (note body seen) = true := by simp [ends]
          rw [nothing, if_pos stop]
          exact ⟨by simp [bodies, hasBody, upTo, ends, note], .inl ⟨stop, rfl⟩⟩
        next =>
          have same : leftover final missing.length (segment :: behind) =
              leftover final missing.length behind := by
            simp [leftover, hasBody, complete, ends]
          have still : hasEnded final (note body seen) = false := by simp [goes, ends]
          have next := ih others remaining still
          rw [same, if_neg (by simp [still])]
          exact ⟨next.given.trans (by simp [bodies, hasBody, upTo, ends]), next.left⟩
    next =>
      have part : (Segment.joined behind).length < (more ++ Segment.joined behind).length := by
        rw [List.length_append]
        exact Nat.lt_add_of_pos_left (List.length_pos_of_ne_nil filled)
      have waits : leftover final (more ++ Segment.joined behind).length (segment :: behind) =
          segment :: behind := if_pos part
      rw [feed_part first filled whole, waits]
      exact ⟨rfl, .inr ⟨goes, cut⟩⟩

theorem leftoverAll_nil (pieces : List Bytes) : leftoverAll final pieces [] = [] := by
  induction pieces with
  | nil => rfl
  | cons piece rest ih => exact ih

theorem feedAll_gotTo {stream : List Segment} (readable : ∀ segment ∈ stream, segment.Readable)
    {buffer : Bytes} {pieces : List Bytes}
    (cut : buffer ++ pieces.flatten = Segment.joined stream)
    {seen : List String} (goes : hasEnded final seen = false) :
    GotTo final stream seen (leftoverAll final pieces stream)
      (feedAll note (hasEnded final) buffer pieces seen) [] := by
  induction pieces generalizing stream buffer seen with
  | nil => exact ⟨rfl, .inr ⟨goes, cut⟩⟩
  | cons piece later ih =>
    rw [List.flatten_cons, ← List.append_assoc] at cut
    have round := feed_gotTo readable cut goes
    simp only [feedAll, leftoverAll, goes, Bool.false_eq_true, if_false]
    obtain ⟨ends, nothing⟩ | ⟨still, remaining⟩ := round.left
    next =>
      rw [feedAll_stopped ends, nothing, leftoverAll_nil]
      exact ⟨nothing ▸ round.given, .inl ⟨ends, rfl⟩⟩
    next =>
      have inside : ∀ segment ∈ leftover final later.flatten.length stream, segment.Readable :=
        fun segment member => readable segment ((leftover_suffix _ stream).mem member)
      have others := ih inside remaining still
      exact ⟨others.given.trans round.given, others.left⟩

theorem collect_gotTo {stream : List Segment} (readable : ∀ segment ∈ stream, segment.Readable)
    {pieces : List Bytes} (cut : pieces.flatten = Segment.joined stream) :
    GotTo final stream [] (leftoverAll final pieces stream) (collect final pieces) [] :=
  feedAll_gotTo readable ((List.nil_append _).trans cut) rfl

theorem feedAll_eq_collect {S : Type} {step : String → S → S} {stopped : S → Bool} {state : S}
    (stops : ∀ seen : List String,
      stopped (seen.foldl (fun state body => step body state) state) = hasEnded final seen)
    (pieces : List Bytes) :
    feedAll step stopped [] pieces state =
      ((collect final pieces).1,
        (collect final pieces).2.foldl (fun state body => step body state) state) := by
  let view (seen : List String) : S := seen.foldl (fun state body => step body state) state
  have steps (body : String) (seen : List String) :
      view (note body seen) = step body (view seen) := by
    simp [view, note]
  exact feedAll_map steps stops pieces [] []

theorem upTo_eq_nil {texts : List String} : upTo final texts = [] ↔ texts = [] := by
  cases texts with
  | nil => simp [upTo]
  | cons text rest =>
    simp only [upTo]
    split <;> simp

end Collect

section Blocks

variable (final : String → Bool)

-- For each header block without a body that stands before a body that counts: how many bytes of
-- the stream stand behind it.
def behindBlocks : List Segment → List Nat
  | [] => []
  | segment :: rest =>
    match segment.body with
    | some body => if final body then [] else behindBlocks rest
    | none => if bodies rest = [] then [] else (Segment.joined rest).length :: behindBlocks rest

def toCome : List Bytes → List Nat
  | [] => []
  | piece :: rest => (piece :: rest).flatten.length :: toCome rest

def pass : List Nat → Nat → List Nat
  | [], _ => []
  | behind :: rest, toCome => if toCome ≤ behind then rest else behind :: rest

variable {final}

theorem behindBlocks_of_bodies_nil {stream : List Segment} (none : bodies stream = []) :
    behindBlocks final stream = [] := by
  cases stream with
  | nil => rfl
  | cons segment rest =>
    unfold behindBlocks
    cases hasBody : segment.body <;> simp_all [bodies]

theorem length_joined_cons (segment : Segment) (rest : List Segment) :
    (Segment.joined rest).length < (Segment.joined (segment :: rest)).length := by
  rw [Segment.joined, List.length_append]
  exact Nat.lt_add_of_pos_left segment.bytes_pos

theorem lt_joined_of_mem_behindBlocks {stream : List Segment} {behind : Nat}
    (member : behind ∈ behindBlocks final stream) : behind < (Segment.joined stream).length := by
  induction stream with
  | nil => cases member
  | cons segment rest ih =>
    have longer := length_joined_cons segment rest
    unfold behindBlocks at member
    repeat' split at member
    · cases member
    · exact (ih member).trans longer
    · cases member
    · cases List.mem_cons.mp member with
      | inl same => exact same ▸ longer
      | inr inRest => exact (ih inRest).trans longer

theorem le_joined_of_mem_behindBlocks {segment : Segment} {rest : List Segment} {behind : Nat}
    (member : behind ∈ behindBlocks final (segment :: rest)) :
    behind ≤ (Segment.joined rest).length := by
  unfold behindBlocks at member
  repeat' split at member
  · cases member
  · exact (lt_joined_of_mem_behindBlocks member).le
  · cases member
  · cases List.mem_cons.mp member with
    | inl same => exact same.le
    | inr inRest => exact (lt_joined_of_mem_behindBlocks inRest).le

theorem behindBlocks_sorted (stream : List Segment) :
    (behindBlocks final stream).Pairwise fun first second => second ≤ first := by
  induction stream with
  | nil => exact .nil
  | cons segment rest ih =>
    unfold behindBlocks
    repeat' split
    · exact .nil
    · exact ih
    · exact .nil
    · exact .cons (fun _ member => (lt_joined_of_mem_behindBlocks member).le) ih

theorem pass_of_lt {blocks : List Nat} {toCome : Nat}
    (later : ∀ behind ∈ blocks, behind < toCome) : pass blocks toCome = blocks := by
  cases blocks with
  | nil => rfl
  | cons behind rest => exact if_neg (Nat.not_le_of_lt (later behind List.mem_cons_self))

theorem behindBlocks_leftover (toCome : Nat) (stream : List Segment) :
    behindBlocks final (leftover final toCome stream) =
      pass (behindBlocks final stream) toCome := by
  induction stream with
  | nil => rfl
  | cons segment rest ih =>
    by_cases part : (Segment.joined rest).length < toCome
    next =>
      have waits : leftover final toCome (segment :: rest) = segment :: rest := if_pos part
      rw [waits, pass_of_lt]
      intro behind member
      exact (le_joined_of_mem_behindBlocks member).trans_lt part
    next =>
      cases hasBody : segment.body with
      | some body =>
        by_cases ends : final body
        next => simp [leftover, part, hasBody, ends, behindBlocks, pass]
        next => simpa [leftover, part, hasBody, ends, behindBlocks] using ih
      | none =>
        by_cases nothing : bodies rest = []
        next =>
          simp [leftover, part, hasBody, behindBlocks, nothing, behindBlocks_of_bodies_nil, pass]
        next => simp [leftover, part, hasBody, behindBlocks, nothing, pass, Nat.le_of_not_lt part]

theorem bodies_leftover_zero (stream : List Segment) :
    bodies (leftover final 0 stream) = [] ↔ behindBlocks final stream = [] := by
  induction stream with
  | nil => simp [leftover, behindBlocks, bodies]
  | cons segment rest ih =>
    cases hasBody : segment.body with
    | none => simp [leftover, hasBody, behindBlocks]
    | some body =>
      by_cases ends : final body
      next => simp [leftover, hasBody, ends, behindBlocks, bodies]
      next => simpa [leftover, hasBody, ends, behindBlocks] using ih

theorem bodies_leftoverAll_cons (piece : Bytes) (later : List Bytes) (stream : List Segment) :
    bodies (leftoverAll final (piece :: later) stream) = [] ↔
      (toCome later).foldl pass (behindBlocks final stream) = [] := by
  induction later generalizing piece stream with
  | nil => exact bodies_leftover_zero stream
  | cons next rest ih =>
    rw [leftoverAll, ih, behindBlocks_leftover]
    rfl

theorem bodies_leftoverAll {stream : List Segment} {pieces : List Bytes}
    (cut : pieces.flatten = Segment.joined stream) :
    bodies (leftoverAll final pieces stream) = [] ↔
      (toCome pieces).foldl pass (behindBlocks final stream) = [] := by
  cases pieces with
  | nil =>
    cases stream with
    | nil => simp [leftoverAll, bodies, toCome, behindBlocks]
    | cons segment rest => simp [Segment.joined, Segment.bytes, separator] at cut
  | cons piece later =>
    have first : pass (behindBlocks final stream) (piece :: later).flatten.length =
        behindBlocks final stream :=
      pass_of_lt fun behind member => cut ▸ lt_joined_of_mem_behindBlocks member
    rw [bodies_leftoverAll_cons, toCome, List.foldl_cons, first]

theorem le_of_mem_toCome {pieces : List Bytes} {size : Nat} (member : size ∈ toCome pieces) :
    size ≤ pieces.flatten.length := by
  induction pieces with
  | nil => cases member
  | cons piece rest ih =>
    cases List.mem_cons.mp member with
    | inl same => exact same.le
    | inr later =>
      rw [List.flatten_cons, List.length_append]
      exact (ih later).trans (Nat.le_add_left _ _)

theorem toCome_sorted (pieces : List Bytes) :
    (toCome pieces).Pairwise fun first second => second ≤ first := by
  induction pieces with
  | nil => exact .nil
  | cons piece rest ih =>
    refine .cons (fun size member => ?_) ih
    rw [List.flatten_cons, List.length_append]
    exact (le_of_mem_toCome member).trans (Nat.le_add_left _ _)

def Enough (sizes blocks : List Nat) : Prop :=
  ∀ behind others, behind :: others <:+ blocks → others.length < sizes.countP (· ≤ behind)

theorem enough_nil {blocks : List Nat} : Enough [] blocks ↔ blocks = [] := by
  cases blocks with
  | nil => simp [Enough]
  | cons first rest =>
    simp only [Enough, List.countP_nil, Nat.not_lt_zero, imp_false, reduceCtorEq, iff_false]
    exact fun none => none first rest (List.suffix_refl _)

theorem enough_of_nil (sizes : List Nat) : Enough sizes [] := by simp [Enough]

section Cons

variable {size first : Nat} {later rest : List Nat}

theorem countP_of_passed {behind : Nat} (bound : ∀ other ∈ later, other ≤ size)
    (passed : size ≤ behind) : later.countP (· ≤ behind) = later.length :=
  List.countP_eq_length.mpr fun other member => by simpa using (bound other member).trans passed

theorem Enough.length_le (enough : Enough later rest) : rest.length ≤ later.length := by
  cases rest with
  | nil => exact Nat.zero_le _
  | cons second others =>
    exact (enough second others (List.suffix_refl _)).trans_le List.countP_le_length

theorem enough_cons_of_passed (bound : ∀ other ∈ later, other ≤ size) (passed : size ≤ first) :
    Enough (size :: later) (first :: rest) ↔ Enough later rest := by
  constructor
  · intro enough behind others inRest
    have whole := enough first rest (List.suffix_refl _)
    have here := enough behind others (inRest.trans (List.suffix_cons _ _))
    by_cases same : size ≤ behind
    next =>
      have fewer := inRest.length_le
      rw [List.countP_cons_of_pos (by simpa using passed), countP_of_passed bound passed] at whole
      rw [countP_of_passed bound same]
      simp only [List.length_cons] at fewer
      omega
    next => simpa [same] using here
  · intro enough behind others inBlocks
    cases List.suffix_cons_iff.mp inBlocks with
    | inl same =>
      obtain ⟨rfl, rfl⟩ := List.cons.inj same
      rw [List.countP_cons_of_pos (by simpa using passed), countP_of_passed bound passed]
      exact Nat.lt_succ_of_le enough.length_le
    | inr inRest =>
      exact (enough behind others inRest).trans_le (List.sublist_cons_self size later).countP_le

theorem enough_cons_of_waiting (lower : ∀ other ∈ rest, other ≤ first) (waits : first < size) :
    Enough (size :: later) (first :: rest) ↔ Enough later (first :: rest) := by
  refine forall_congr' fun behind => forall_congr' fun others => imp_congr_right fun inBlocks => ?_
  have below : behind < size := by
    cases List.mem_cons.mp (inBlocks.mem List.mem_cons_self) with
    | inl same => exact same ▸ waits
    | inr inRest => exact (lower behind inRest).trans_lt waits
  rw [List.countP_cons_of_neg]
  simpa using below

end Cons

theorem foldl_pass_eq_nil {sizes blocks : List Nat}
    (sorted : sizes.Pairwise fun first second => second ≤ first)
    (descending : blocks.Pairwise fun first second => second ≤ first) :
    sizes.foldl pass blocks = [] ↔ Enough sizes blocks := by
  induction sizes generalizing blocks with
  | nil => exact enough_nil.symm
  | cons size later ih =>
    obtain ⟨bound, sorted⟩ := List.pairwise_cons.mp sorted
    cases blocks with
    | nil =>
      rw [List.foldl_cons, pass, ih sorted .nil]
      exact iff_of_true (enough_of_nil _) (enough_of_nil _)
    | cons first rest =>
      obtain ⟨lower, ordered⟩ := List.pairwise_cons.mp descending
      by_cases passed : size ≤ first
      next =>
        rw [List.foldl_cons, pass, if_pos passed, ih sorted ordered,
          enough_cons_of_passed bound passed]
      next =>
        rw [List.foldl_cons, pass, if_neg passed, ih sorted descending,
          enough_cons_of_waiting lower (Nat.lt_of_not_le passed)]

end Blocks

end Frame

end PythonAssist
