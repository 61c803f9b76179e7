import PythonAssist.Proofs.TextEngine.CodeLines
import PythonAssist.Proofs.TextEngine.Requests

set_option autoImplicit false

namespace PythonAssist

namespace TextEngine

section Lines

theorem mem_of_mem_dropEnd {line : List Char} {c : Char} (member : c ∈ dropEnd line) : c ∈ line := by
  unfold dropEnd at member
  split at member
  next rest ends =>
    rw [← List.mem_reverse, ends]
    simpa using .inr (.inr (List.mem_reverse.mp member))
  next rest _ ends =>
    rw [← List.mem_reverse, ends]
    simpa using .inr (List.mem_reverse.mp member)
  next => exact member

theorem mem_of_mem_before {text : List Char} {column : Nat} {c : Char}
    (member : c ∈ before text column) : c ∈ text := by
  rw [before] at member
  cases found : bytePrefix? column text with
  | none => simpa [found] using member
  | some front =>
    rw [found] at member
    exact (bytePrefix?_eq_some_iff.mp found).1.subset member

theorem Script.mem_of_mem_line {script : Script} {line : Nat} {text : List Char} {c : Char}
    (found : script.line? line = some text) (member : c ∈ text) : c ∈ script.chars := by
  rw [Script.line?] at found
  split at found
  next => cases found
  next =>
    obtain ⟨whole, listed, rfl⟩ := List.mem_map.mp (List.mem_of_getElem? found)
    rw [← linesWithEnds_flatten script.chars]
    exact List.mem_flatten.mpr ⟨whole, listed, mem_of_mem_dropEnd member⟩

end Lines

def Narrow (text : List Char) : Prop := ∀ c ∈ text, c.utf8Size = 1

theorem BehindWide.exists_wide {text : List Char} (behind : BehindWide text) :
    ∃ c ∈ text, 1 < c.utf8Size := by
  obtain ⟨front, c, word, rfl, -, wide, -⟩ := behind
  exact ⟨c, by simp, wide⟩

theorem CallBehindWide.exists_wide {text : List Char} (behind : CallBehindWide text) :
    ∃ c ∈ text, 1 < c.utf8Size := by
  obtain ⟨front, inside, rfl, -, behind⟩ := behind
  obtain ⟨c, member, wide⟩ := behind.exists_wide
  exact ⟨c, List.mem_append_left _ member, wide⟩

theorem Script.not_stopsAt {script : Script} (narrow : Narrow script.chars) (question : String)
    (line column : Nat) : ¬ script.StopsAt question line column := by
  rintro ⟨found, there, stops⟩
  have wide : ∃ c ∈ before found column, 1 < c.utf8Size := by
    rcases stops with ⟨-, behind⟩ | ⟨-, behind⟩
    · exact behind.exists_wide
    · exact behind.exists_wide
  obtain ⟨c, member, wide⟩ := wide
  have single := narrow c (mem_of_mem_line there (mem_of_mem_before member))
  omega

section Run

variable {engine : TextEngine} {message : Incoming} {body : String}

def HoldsNarrow (engine : TextEngine) : Prop :=
  ∀ handle script, engine.scripts.find? handle = some script → Narrow script.chars

def OpensNarrow (body : String) : Prop :=
  ∀ message, Incoming.ofText body = some message → message.method = some "script/open" →
    Narrow ((message.text? "code").getD "").toList

theorem HoldsNarrow.not_breaks (narrow : engine.HoldsNarrow) : ¬ engine.Breaks body := by
  rintro ⟨message, method, -, -, -, -, question, -, script, found, stops⟩
  exact script.not_stopsAt (narrow _ script found) _ _ _ stops

theorem HoldsNarrow.openScript (narrow : engine.HoldsNarrow)
    (opened : Narrow ((message.text? "code").getD "").toList) :
    (engine.openScript message).2.HoldsNarrow := by
  intro handle script found
  rw [TextEngine.openScript, Table.find?_insert] at found
  split at found
  next =>
    cases found
    exact opened
  next => exact narrow handle script found

theorem HoldsNarrow.answer (narrow : engine.HoldsNarrow) {method : String}
    (opened : method = "script/open" → Narrow ((message.text? "code").getD "").toList) :
    (engine.answer method message).2.HoldsNarrow := by
  unfold TextEngine.answer
  split
  next => exact narrow
  next =>
    split
    case h_2 =>
      split
      next => exact narrow
      next => exact narrow.openScript (opened rfl)
    case h_5 => split <;> exact narrow
    all_goals exact narrow

theorem HoldsNarrow.notify (narrow : engine.HoldsNarrow) (method : String) :
    (engine.notify method message).HoldsNarrow := by
  unfold TextEngine.notify
  split
  next =>
    split
    next released _ =>
      intro handle script found
      rw [Table.find?_erase] at found
      split at found
      next => cases found
      next => exact narrow handle script found
    next => exact narrow
  next => exact narrow

theorem HoldsNarrow.handle (narrow : engine.HoldsNarrow) (opens : OpensNarrow body) :
    (engine.handle body).2.HoldsNarrow := by
  unfold TextEngine.handle
  split
  next => exact narrow
  next message read =>
    split
    next => exact narrow
    next method _ _ => exact narrow.notify method
    next method id named _ =>
      have answered := narrow.answer fun same => opens message read (same ▸ named)
      unfold conclude
      split
      next => exact answered
      next => exact answered

theorem HoldsNarrow.unharmed {bodies : List String} (narrow : engine.HoldsNarrow)
    (opens : ∀ body ∈ bodies, OpensNarrow body) : Unharmed bodies engine := by
  induction bodies generalizing engine with
  | nil => trivial
  | cons body rest ih =>
    obtain ⟨first, others⟩ := List.forall_mem_cons.mp opens
    exact ⟨narrow.not_breaks, ih (narrow.handle first) others⟩

theorem unharmed_of_opensNarrow (options : TextEngineOptions) {bodies : List String}
    (opens : ∀ body ∈ bodies, OpensNarrow body) : Unharmed bodies (start options) :=
  HoldsNarrow.unharmed (fun _ _ found => by cases found) opens

end Run

end TextEngine

end PythonAssist
