import PythonAssist.Proofs.Wire.RoundTrip

set_option autoImplicit false

namespace PythonAssist

namespace Frame

def arrived : Nat → List Segment → List Segment
  | _, [] => []
  | size, segment :: rest =>
    if segment.bytes.length ≤ size then segment :: arrived (size - segment.bytes.length) rest
    else []

def heard (size : Nat) (stream : List Segment) : List String := bodies (arrived size stream)

def Framed (stream : List Segment) : Prop :=
  ∀ segment ∈ stream, segment.Readable ∧ segment.body.isSome

section Arrived

variable {stream : List Segment}

theorem arrived_append_leftover (framed : Framed stream) {size toCome : Nat}
    (whole : size + toCome = (Segment.joined stream).length) :
    arrived size stream ++ leftover (fun _ => false) toCome stream = stream := by
  induction stream generalizing size with
  | nil => rfl
  | cons segment rest ih =>
    obtain ⟨body, filled⟩ := Option.isSome_iff_exists.mp (framed segment List.mem_cons_self).2
    have others : Framed rest := fun other member => framed other (List.mem_cons_of_mem _ member)
    rw [Segment.joined, List.length_append] at whole
    by_cases complete : segment.bytes.length ≤ size
    next =>
      have behind : ¬ (Segment.joined rest).length < toCome := by omega
      have shorter : size - segment.bytes.length + toCome = (Segment.joined rest).length := by omega
      simp [arrived, leftover, complete, behind, filled, ih others shorter]
    next =>
      have waiting : (Segment.joined rest).length < toCome := by omega
      simp [arrived, leftover, complete, waiting]

theorem heard_append_leftover (framed : Framed stream) {size toCome : Nat}
    (whole : size + toCome = (Segment.joined stream).length) :
    heard size stream ++ bodies (leftover (fun _ => false) toCome stream) = bodies stream := by
  have parts := congrArg bodies (arrived_append_leftover framed whole)
  simpa [bodies, heard] using parts

theorem leftover_all (final : String → Bool) (stream : List Segment) :
    leftover final (Segment.joined stream).length stream = stream := by
  cases stream with
  | nil => rfl
  | cons segment rest => exact if_pos (length_joined_cons segment rest)

theorem leftover_leftover (framed : Framed stream) {fewer more : Nat} (order : fewer ≤ more) :
    leftover (fun _ => false) fewer (leftover (fun _ => false) more stream) =
      leftover (fun _ => false) fewer stream := by
  induction stream with
  | nil => rfl
  | cons segment rest ih =>
    obtain ⟨body, filled⟩ := Option.isSome_iff_exists.mp (framed segment List.mem_cons_self).2
    have others : Framed rest := fun other member => framed other (List.mem_cons_of_mem _ member)
    by_cases waiting : (Segment.joined rest).length < more
    next => rw [leftover, if_pos waiting]
    next =>
      have sooner : ¬ (Segment.joined rest).length < fewer := by omega
      simpa [leftover, waiting, sooner, filled] using ih others

-- The bodies in a buffer, and what is kept of it, do not depend on who takes them.
theorem feed_unstopped {S : Type} (step : String → S → S) (buffer : Bytes) (state : S) :
    feed step (fun _ => false) buffer state =
      Prod.map id (List.foldl (fun state body => step body state) state)
        (feed note (hasEnded fun _ => false) buffer []) := by
  let view (seen : List String) : S := seen.foldl (fun state body => step body state) state
  have steps (body : String) (seen : List String) :
      view (note body seen) = step body (view seen) := by
    simp [view, note]
  have stops (seen : List String) : false = hasEnded (fun _ => false) seen := by simp [hasEnded]
  exact feed_map steps stops buffer []

theorem note_framed (framed : Framed stream) {buffer missing : Bytes}
    (cut : buffer ++ missing = Segment.joined stream) :
    let reader := feed note (hasEnded fun _ => false) buffer []
    reader.2 ++ bodies (leftover (fun _ => false) missing.length stream) = bodies stream ∧
      reader.1 ++ missing = Segment.joined (leftover (fun _ => false) missing.length stream) := by
  intro reader
  have goes (seen : List String) : hasEnded (fun _ => false) seen = false := by simp [hasEnded]
  have reached := feed_gotTo (fun segment member => (framed segment member).1) cut (goes [])
  constructor
  · simpa [upTo_eq_self (goes _)] using reached.given
  · exact reached.left.elim (fun stop => absurd stop.1 (by simp [goes])) fun still => still.2

end Arrived

end Frame

end PythonAssist
