import Mathlib.Data.List.Basic
import PythonAssist.FolderCache
import PythonAssist.Lint.StyleFiles
import PythonAssist.Proofs.Path.Join

set_option autoImplicit false

namespace PythonAssist

namespace StyleOptions

theorem load_congr {disk other : Disk} {folder override : Option Path}
    (same : ∀ path ∈ files folder override, disk.read path = other.read path) :
    load disk folder override = load other folder override := by
  have layers : (files folder override).filterMap (StyleLayer.ofFile disk) =
      (files folder override).filterMap (StyleLayer.ofFile other) := by
    apply List.filterMap_congr
    intro path listed
    unfold StyleLayer.ofFile
    rw [same path listed]
  unfold load
  rw [layers]

end StyleOptions

-- However a folder is spelled, its project files are the same.
def Disk.IgnoresSpelling (disk : Disk) : Prop :=
  ∀ folder other : Path, folder.components = other.components →
    ∀ name ∈ StyleOptions.projectFiles,
      disk.read (folder.join name) = disk.read (other.join name)

theorem Disk.ofFiles_ignoresSpelling (files : List (Path × Bytes)) :
    (Disk.ofFiles files).IgnoresSpelling := by
  intro folder other same name listed
  have plain : ∀ name ∈ StyleOptions.projectFiles, Path.IsName name := by decide +kernel
  exact ofFiles_join files (plain name listed) same

theorem StyleOptions.load_key {disk : Disk} (spelling : disk.IgnoresSpelling)
    {folder other : Option Path} (same : FolderCache.key folder = FolderCache.key other)
    (override : Option Path) : load disk folder override = load disk other override := by
  cases folder with
  | none =>
    cases other with
    | none => rfl
    | some other => cases same
  | some folder =>
    cases other with
    | none => cases same
    | some other =>
      have layers : (projectFiles.map folder.join).filterMap (StyleLayer.ofFile disk) =
          (projectFiles.map other.join).filterMap (StyleLayer.ofFile disk) := by
        simp only [List.filterMap_map]
        apply List.filterMap_congr
        intro name listed
        simp only [Function.comp_apply, StyleLayer.ofFile,
          spelling folder other (Option.some.inj same) name listed]
      unfold load files
      simp only [List.filterMap_append, layers]

end PythonAssist
