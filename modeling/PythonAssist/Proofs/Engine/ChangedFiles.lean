import Mathlib.Data.List.Perm.Basic
import Mathlib.Data.String.Basic
import PythonAssist.Engine.Codec
import PythonAssist.Proofs.Json.Likeness
import PythonAssist.Proofs.Path.Order
import PythonAssist.Proofs.Wire.Header

set_option autoImplicit false

namespace PythonAssist

theorem foldl_put_perm {X : Type} {put : X → List X → List X} {different : X → X → Prop}
    (symmetric : ∀ a b, different a b → different b a)
    (grows : ∀ new known, (∀ old ∈ known, different old new) → (put new known).Perm (new :: known))
    {all : List X} (apart : all.Pairwise different) :
    (all.foldl (fun known new => put new known) []).Perm all := by
  have grown : ∀ known, (known ++ all).Pairwise different →
      (all.foldl (fun known new => put new known) known).Perm (known ++ all) := by
    clear apart
    induction all with
    | nil => simp
    | cons new rest ih =>
      intro known apart
      have added := grows new known fun old member =>
        (List.pairwise_append.mp apart).2.2 old member new List.mem_cons_self
      have moved : (put new known ++ rest).Perm (known ++ new :: rest) :=
        (added.append_right rest).trans List.perm_middle.symm
      exact (ih _ ((moved.pairwise_iff (symmetric _ _)).mpr apart)).trans moved
  exact grown [] apart

namespace Json

theorem insert_perm {key : String} {value : Json} {known : List (String × Json)}
    (fresh : ∀ field ∈ known, field.1 ≠ key) :
    (insert key value known).Perm ((key, value) :: known) := by
  induction known with
  | nil => exact .refl _
  | cons field rest ih =>
    have later := ih fun other member => fresh other (List.mem_cons_of_mem _ member)
    rw [insert, if_neg (fresh field List.mem_cons_self).symm]
    split
    next => exact .refl _
    next => exact (later.cons field).trans (.swap (key, value) field rest)

theorem ofFields_perm {fields : List (String × Json)} (distinct : (fields.map Prod.fst).Nodup) :
    ∃ sorted, ofFields fields = .object sorted ∧ sorted.Perm fields :=
  ⟨_, rfl, foldl_put_perm (fun _ _ => Ne.symm) (fun _ _ fresh => insert_perm fresh)
    (List.pairwise_map.mp distinct)⟩

end Json

namespace Path

theorem same_comm (a b : Path) : a.same b = b.same a := by
  rw [Bool.eq_iff_iff, same_iff, same_iff, eq_comm]

theorem same_of_before {a b : Path} (before : a.before b = true) : a.same b = false := by
  rw [← Bool.not_eq_true, same_iff]
  rw [before_iff] at before
  exact ne_of_lt before

def IsText (path : Path) : Prop := ∃ text, path = .ofString text

theorem display_ofString (text : String) : (ofString text).display = text := by
  rw [display, ofString, Utf8.decodeLossy, Utf8.decode?_encode]

theorem IsText.ofString_display {path : Path} (isText : path.IsText) :
    ofString path.display = path := by
  obtain ⟨text, rfl⟩ := isText
  rw [display_ofString]

theorem isNull_toJson (path : Path) : path.toJson.isNull = false := rfl

theorem IsText.decode_toJson {path : Path} (isText : path.IsText) :
    decode path.toJson = .ok path := by
  rw [toJson, decode, isText.ofString_display]

end Path

def Apart (files : List (Path × ChangedFile)) : Prop :=
  files.Pairwise fun a b => a.1.same b.1 = false

theorem insertFile_perm {path : Path} {file : ChangedFile} {files : List (Path × ChangedFile)}
    (fresh : ∀ entry ∈ files, entry.1.same path = false) :
    (insertFile path file files).Perm ((path, file) :: files) := by
  induction files with
  | nil => exact .refl _
  | cons first rest ih =>
    have later := ih fun entry member => fresh entry (List.mem_cons_of_mem _ member)
    rw [insertFile, Path.same_comm, fresh first List.mem_cons_self, if_neg Bool.false_ne_true]
    split
    next => exact .refl _
    next => exact (later.cons first).trans (.swap (path, file) first rest)

namespace ChangedFile

def slots : List Slot := [.exact "old_code" none, .exact "new_code" none]

theorem reader_takes : reader.Takes slots := by
  have takes := ((Reader.takes_exact "old_code" Json.decodeString).map ChangedFile.mk).seq
    (Reader.takes_exact "new_code" Json.decodeString)
  exact takes

theorem decode_toJson (file : ChangedFile) : decode file.toJson = .ok file := by
  refine Reader.ofObject_of_build reader_takes.checked (by simp) ?_
  simp [reader, Json.field?, Json.decodeString, Except.map, Except.bind]

end ChangedFile

namespace Refactoring

theorem Ordered.apart {refactoring : Refactoring} (ordered : refactoring.Ordered) :
    Apart refactoring.changedFiles := ordered.imp Path.same_of_before

theorem apart_symm (a b : Path × ChangedFile) (different : a.1.same b.1 = false) :
    b.1.same a.1 = false := by
  rwa [Path.same_comm]

theorem ofFiles_perm {files : List (Path × ChangedFile)} (apart : Apart files) :
    (ofFiles files).changedFiles.Perm files :=
  foldl_put_perm apart_symm (fun _ _ => insertFile_perm) apart

theorem ofFiles_eq {files : List (Path × ChangedFile)} {refactoring : Refactoring}
    (ordered : refactoring.Ordered) (perm : files.Perm refactoring.changedFiles) :
    ofFiles files = refactoring := by
  have listed := ofFiles_perm ((perm.pairwise_iff (apart_symm _ _)).mpr ordered.apart)
  have same : (ofFiles files).changedFiles = refactoring.changedFiles := by
    refine (listed.trans perm).eq_of_pairwise (fun a b _ _ before after => ?_)
      (ofFiles_ordered files) ordered
    have itself := Path.before_trans before after
    rw [Path.before_irrefl] at itself
    cases itself
  exact congrArg Refactoring.mk same

def decodeFile (field : String × Json) : Decoded (Path × ChangedFile) := do
  return (Path.ofString field.1, ← ChangedFile.decode field.2)

theorem decodeFile_eq (field : String × Json) :
    decodeFile field = (ChangedFile.decode field.2).map fun file => (.ofString field.1, file) := by
  rw [decodeFile]
  cases ChangedFile.decode field.2 <;> rfl

theorem path_of_decodeFile {field : String × Json} {file : Path × ChangedFile}
    (decoded : decodeFile field = .ok file) : Path.ofString field.1 = file.1 := by
  rw [decodeFile_eq] at decoded
  cases content : ChangedFile.decode field.2 with
  | error => rw [content] at decoded; cases decoded
  | ok => rw [content] at decoded; cases decoded; rfl

theorem decodeFiles_object (fields : List (String × Json)) :
    decodeFiles (.object fields) = fields.mapM decodeFile := rfl

structure Written (refactoring : Refactoring) : Prop where
  ordered : refactoring.Ordered
  text : ∀ file ∈ refactoring.changedFiles, file.1.IsText

theorem Written.distinct {refactoring : Refactoring} (written : refactoring.Written) :
    ((refactoring.changedFiles.map fun file => (file.1.display, file.2.toJson)).map
      Prod.fst).Nodup := by
  rw [List.map_map, List.Nodup, List.pairwise_map]
  refine written.ordered.imp_of_mem fun {a b} first second before same => ?_
  have path : a.1 = b.1 := by
    rw [← (written.text a first).ofString_display, ← (written.text b second).ofString_display]
    exact congrArg Path.ofString same
  rw [path, Path.before_irrefl] at before
  cases before

theorem Written.decodeFiles {refactoring : Refactoring} (written : refactoring.Written) :
    ∃ files, decodeFiles (Json.ofFields
        (refactoring.changedFiles.map fun file => (file.1.display, file.2.toJson))) = .ok files ∧
      files.Perm refactoring.changedFiles := by
  obtain ⟨sorted, object, perm⟩ := Json.ofFields_perm written.distinct
  have each : List.Forall₂ (fun field file => decodeFile field = .ok file)
      (refactoring.changedFiles.map fun file => (file.1.display, file.2.toJson))
      refactoring.changedFiles := by
    rw [List.forall₂_map_left_iff, List.forall₂_same]
    intro file member
    rw [decodeFile, (written.text file member).ofString_display, ChangedFile.decode_toJson]
    rfl
  obtain ⟨files, listed, rearranged⟩ := List.perm_comp_forall₂ perm each
  exact ⟨files, by rw [object, decodeFiles_object, mapM_eq_ok_iff.mpr listed], rearranged⟩

theorem decode_toJson {refactoring : Refactoring} (written : refactoring.Written) :
    decode refactoring.toJson = .ok refactoring := by
  obtain ⟨files, decoded, perm⟩ := written.decodeFiles
  refine Reader.ofObject_of_build ((Reader.checked_required _ _).map _) (by simp) ?_
  simp [Json.field?, decoded, Except.map, ofFiles_eq written.ordered perm]

end Refactoring

-- Two maps from paths to files that list the same paths with contents that count as one. Both are
-- in order, as whatever was read is; or else no two of the paths name one file, since of those the
-- later one prevails.
inductive Files (alike : Json → Json → Prop) : Json → Json → Prop where
  | same (value : Json) : Files alike value value
  | files {a b : List (String × Json)} (first : (a.map Prod.fst).Nodup)
      (second : (b.map Prod.fst).Nodup)
      (agree : ∀ key, Option.Rel alike (Json.field? key a) (Json.field? key b))
      (order : (a.Pairwise (fun x y => x.1 < y.1) ∧ b.Pairwise fun x y => x.1 < y.1) ∨
        a.Pairwise fun x y => (Path.ofString x.1).same (Path.ofString y.1) = false) :
      Files alike (.object a) (.object b)

def Slot.files (key : String) (slots : List Slot) : Slot :=
  { key, absent := none, alike := Files (Record slots), alike_self := .same }

theorem exists_of_rel_some {alike : Json → Json → Prop} {found : Option Json} {value : Json}
    (rel : Option.Rel alike found (some value)) :
    ∃ other, found = some other ∧ alike other value := by
  cases rel with
  | some alike => exact ⟨_, rfl, alike⟩

theorem isSome_of_rel {alike : Json → Json → Prop} {found other : Option Json}
    (rel : Option.Rel alike found other) : found.isSome = other.isSome := by
  cases rel <;> rfl

theorem map_eq_map_of_forall₂ {X Y Z : Type} {f : X → Z} {g : Y → Z} {xs : List X} {ys : List Y}
    (each : List.Forall₂ (fun x y => f x = g y) xs ys) : xs.map f = ys.map g := by
  rw [← List.forall₂_eq_eq_eq, List.forall₂_map_left_iff, List.forall₂_map_right_iff]
  exact each

theorem exists_rearranged {alike : Json → Json → Prop} {a b : List (String × Json)}
    (first : (a.map Prod.fst).Nodup) (second : (b.map Prod.fst).Nodup)
    (agree : ∀ key, Option.Rel alike (Json.field? key a) (Json.field? key b)) :
    ∃ c, a.Perm c ∧ List.Forall₂ (fun x y => x.1 = y.1 ∧ alike x.2 y.2) c b := by
  let moved (y : String × Json) : String × Json := (y.1, (Json.field? y.1 a).getD .null)
  have found (y : String × Json) (member : y ∈ b) :
      Json.field? y.1 a = some (moved y).2 ∧ alike (moved y).2 y.2 := by
    obtain ⟨u, held, like⟩ := exists_of_rel_some (Json.field?_of_mem second member ▸ agree y.1)
    have value : (moved y).2 = u := by simp [moved, held]
    rw [value]
    exact ⟨held, like⟩
  refine ⟨b.map moved, ?_, ?_⟩
  · have keys : (b.map moved).map Prod.fst = b.map Prod.fst := by simp [moved]
    refine (List.perm_ext_iff_of_nodup first.of_map (keys ▸ second).of_map).mpr fun x => ?_
    rw [List.mem_map]
    constructor
    · intro member
      have held := Json.field?_of_mem first member
      have listed : (Json.field? x.1 b).isSome := by
        rw [← isSome_of_rel (agree x.1), held]
        rfl
      obtain ⟨w, there⟩ := Option.isSome_iff_exists.mp listed
      exact ⟨(x.1, w), Json.mem_of_field? there, by simp [moved, held]⟩
    · rintro ⟨y, member, rfl⟩
      exact Json.mem_of_field? (found y member).1
  · rw [List.forall₂_map_left_iff, List.forall₂_same]
    exact fun y member => ⟨rfl, (found y member).2⟩

theorem eq_of_ascending {a c : List (String × Json)} (perm : a.Perm c)
    (first : a.Pairwise fun x y => x.1 < y.1) (second : c.Pairwise fun x y => x.1 < y.1) : a = c :=
  perm.eq_of_pairwise (fun _ _ _ _ before after => absurd after (lt_asymm before)) first second

namespace Refactoring

-- The order of the fields only decides in which order their values are put in.
theorem ofFiles_rearranged {a c : List (String × Json)} (perm : a.Perm c)
    (apart : a.Pairwise fun x y => (Path.ofString x.1).same (Path.ofString y.1) = false)
    {files : List (Path × ChangedFile)} (decoded : a.mapM decodeFile = .ok files) :
    ∃ others, c.mapM decodeFile = .ok others ∧ ofFiles others = ofFiles files := by
  obtain ⟨others, listed, rearranged⟩ :=
    List.perm_comp_forall₂ perm.symm (mapM_eq_ok_iff.mp decoded)
  have paths : (a.map fun x => Path.ofString x.1) = files.map Prod.fst :=
    map_eq_map_of_forall₂ ((mapM_eq_ok_iff.mp decoded).imp fun _ _ => path_of_decodeFile)
  have pairwise : (files.map Prod.fst).Pairwise fun p q => Path.same p q = false :=
    paths ▸ List.pairwise_map.mpr apart
  have distinct : Apart files := List.pairwise_map.mp pairwise
  exact ⟨others, mapM_eq_ok_iff.mpr listed,
    ofFiles_eq (ofFiles_ordered files) (rearranged.trans (ofFiles_perm distinct).symm)⟩

theorem respects_rearranged {a c : List (String × Json)} (perm : a.Perm c)
    (apart : a.Pairwise fun x y => (Path.ofString x.1).same (Path.ofString y.1) = false) :
    ((a.mapM decodeFile).map ofFiles).toOption = ((c.mapM decodeFile).map ofFiles).toOption := by
  have apart' : c.Pairwise fun x y => (Path.ofString x.1).same (Path.ofString y.1) = false :=
    (perm.pairwise_iff fun {x y} different => by rwa [Path.same_comm]).mp apart
  cases decoded : a.mapM decodeFile with
  | ok files =>
    obtain ⟨others, listed, same⟩ := ofFiles_rearranged perm apart decoded
    rw [listed, Except.map, Except.map, same]
  | error =>
    cases rearranged : c.mapM decodeFile with
    | error => rfl
    | ok files =>
      obtain ⟨others, listed, -⟩ := ofFiles_rearranged perm.symm apart' rearranged
      rw [listed] at decoded
      cases decoded

theorem respects_files :
    Respects (fun value => (decodeFiles value).map ofFiles) (Files (Record ChangedFile.slots)) := by
  rintro _ _ (_ | ⟨first, second, agree, order⟩)
  · rfl
  next a b =>
  obtain ⟨c, perm, each⟩ := exists_rearranged first second agree
  have contents : (c.mapM decodeFile).toOption = (b.mapM decodeFile).toOption := by
    refine toOption_mapM (fun x y like => ?_) each
    obtain ⟨key, alike⟩ := like
    have read := ChangedFile.reader_takes.respects "struct ChangedFile" _ _ alike
    rw [decodeFile_eq, decodeFile_eq, toOption_map, toOption_map, key]
    exact congrArg _ read
  have rearranged : ((a.mapM decodeFile).map ofFiles).toOption =
      ((c.mapM decodeFile).map ofFiles).toOption := by
    rcases order with ⟨ascending, ascending'⟩ | apart
    · have keys : c.map Prod.fst = b.map Prod.fst :=
        map_eq_map_of_forall₂ (each.imp fun _ _ like => like.1)
      have moved : c.Pairwise fun x y => x.1 < y.1 :=
        List.pairwise_map.mp (keys ▸ List.pairwise_map.mpr ascending')
      rw [eq_of_ascending perm ascending moved]
    · exact respects_rearranged perm apart
  simp only [decodeFiles_object]
  rw [rearranged, toOption_map, toOption_map, contents]

def slots : List Slot := [.files "changed_files" ChangedFile.slots]

theorem reader_takes : reader.Takes slots :=
  Reader.takes_map_required ofFiles (.files "changed_files" ChangedFile.slots) rfl respects_files

end Refactoring

end PythonAssist
