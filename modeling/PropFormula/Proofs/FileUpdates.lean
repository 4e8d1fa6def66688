import PropFormula.Files
import PropFormula.Proofs.Checks

namespace PropFormula
namespace FileSystem

variable {files created final : FileSystem} {text body : String} {path other : Path} {node : Node}

-- The absolute path that a text names, whether or not anything is there. Changing an entry that is no directory
-- moves no path, so a file just created is found again by its text (`Stands.put`).
def Stands (files : FileSystem) (text : String) (path : Path) : Prop :=
  ∃ directory name, files.reach text = .ok (directory,name) ∧ enter directory name = .ok path

theorem descend_put (plain : files.node? path ≠ some .directory) {names : List String} {directory : Path}
    {start : Path} (led : files.descend start names = .ok directory) :
    (files.put path node).descend start names = .ok directory := by
  induction names generalizing start with
  | nil => exact led
  | cons name rest ih =>
    obtain ⟨inner,entered,led⟩ := bind_ok.mp led
    refine bind_ok.mpr ⟨inner,entered,?_⟩
    cases found : files.node? inner with
    | none => rw [found] at led; cases led
    | some there =>
      rw [found] at led
      cases there with
      | directory =>
        have elsewhere : inner ≠ path := by
          rintro rfl
          exact plain found
        rw [node_put_other files path inner node elsewhere,found]
        exact ih led
      | file content => cases led
      | device device => cases led

theorem reach_iff {directory : Path} {name : String} :
    files.reach text = .ok (directory,name) ↔ text.isEmpty = false ∧
      files.descend (if text.toList.head? == some '/' then [] else files.home) (pathNames text).dropLast =
        .ok directory ∧
      (pathNames text).getLast?.getD "." = name := by
  unfold reach
  cases text.isEmpty with
  | true => exact ⟨nofun,nofun⟩
  | false =>
    constructor
    · intro reached
      obtain ⟨found,led,same⟩ := bind_ok.mp reached
      cases same
      exact ⟨rfl,led,rfl⟩
    · rintro ⟨_,led,rfl⟩
      exact bind_ok.mpr ⟨directory,led,rfl⟩

theorem Stands.put (plain : files.node? path ≠ some .directory) (stands : files.Stands text other) :
    (files.put path node).Stands text other := by
  obtain ⟨directory,name,reached,entered⟩ := stands
  obtain ⟨filled,led,last⟩ := reach_iff.mp reached
  exact ⟨directory,name,reach_iff.mpr ⟨filled,descend_put plain led,last⟩,entered⟩

theorem find_of_stands (stands : files.Stands text path) (here : files.node? path = some node)
    (slashless : endsInSlash text = false) : files.find text = .ok (path,node) := by
  obtain ⟨directory,name,reached,entered⟩ := stands
  unfold find
  simp only [reached,entered,bind,Except.bind,here]
  cases node with
  | directory => rfl
  | file content => rw [slashless]; rfl
  | device device => rw [slashless]; rfl

theorem find_cases (found : files.find text = .ok (path,node)) :
    files.Stands text path ∧ files.node? path = some node ∧
      (node = .directory ∨ endsInSlash text = false) := by
  obtain ⟨⟨directory,name⟩,reached,found⟩ := bind_ok.mp found
  obtain ⟨place,entered,found⟩ := bind_ok.mp found
  have stands : files.Stands text place := ⟨directory,name,reached,entered⟩
  cases here : files.node? place with
  | none => rw [here] at found; cases found
  | some there =>
    rw [here] at found
    cases there with
    | directory => cases found; exact ⟨stands,here,.inl rfl⟩
    | _ =>
      cases slash : endsInSlash text with
      | true => rw [slash] at found; cases found
      | false => rw [slash] at found; cases found; exact ⟨stands,here,.inr rfl⟩

-- What creating can come to when it succeeds: a device is left alone, anything else becomes an empty file.
theorem create_cases (made : files.create text = .ok created) :
    ∃ path, files.Stands text path ∧ endsInSlash text = false ∧
      ((∃ device, files.node? path = some (.device device) ∧ created = files) ∨
        (files.node? path ≠ some .directory ∧ created = files.put path (.file .empty))) := by
  obtain ⟨_,_,made⟩ := bind_ok.mp made
  obtain ⟨⟨directory,name⟩,reached,made⟩ := bind_ok.mp made
  cases slash : endsInSlash text with
  | true => rw [slash] at made; cases made
  | false =>
    rw [slash] at made
    obtain ⟨path,entered,made⟩ := bind_ok.mp made
    refine ⟨path,⟨directory,name,reached,entered⟩,rfl,?_⟩
    cases here : files.node? path with
    | none =>
      rw [here] at made
      cases made
      exact .inr ⟨nofun,rfl⟩
    | some node =>
      rw [here] at made
      cases node with
      | directory => cases made
      | file content => cases made; exact .inr ⟨nofun,rfl⟩
      | device device => cases made; exact .inl ⟨device,rfl,rfl⟩

theorem put_put (files : FileSystem) (path : Path) (first second : Node) :
    (files.put path first).put path second = files.put path second := by
  simp [put,List.filter_filter]

theorem below_root (plain : files.node? path ≠ some .directory) : path ≠ [] := by
  rintro rfl
  exact plain rfl

theorem find_put (stands : files.Stands text path) (slashless : endsInSlash text = false)
    (plain : files.node? path ≠ some .directory) (content : ByteArray) :
    (files.put path (.file content)).find text = .ok (path,.file content) :=
  find_of_stands (stands.put plain) (node_put files path _ (below_root plain)) slashless

theorem append_file {content : ByteArray} (found : files.find text = .ok (path,.file content)) (body : String) :
    files.append text body = .ok (files.put path (.file (content ++ body.toUTF8))) :=
  bind_ok.mpr ⟨_,found,rfl⟩

theorem append_null (found : files.find text = .ok (path,.device .null)) (body : String) :
    files.append text body = .ok files :=
  bind_ok.mpr ⟨_,found,rfl⟩

theorem append_cases (wrote : files.append text body = .ok final) :
    ∃ path, (∃ content, files.find text = .ok (path,.file content) ∧
        final = files.put path (.file (content ++ body.toUTF8))) ∨
      (files.find text = .ok (path,.device .null) ∧ final = files) := by
  obtain ⟨⟨path,node⟩,found,wrote⟩ := bind_ok.mp wrote
  refine ⟨path,?_⟩
  cases node with
  | file content => cases wrote; exact .inl ⟨content,found,rfl⟩
  | directory => cases wrote
  | device device =>
    cases device with
    | null => cases wrote; exact .inr ⟨found,rfl⟩
    | full => cases wrote

theorem append_put (stands : files.Stands text path) (slashless : endsInSlash text = false)
    (plain : files.node? path ≠ some .directory) (content : ByteArray) (body : String) :
    (files.put path (.file content)).append text body =
      .ok (files.put path (.file (content ++ body.toUTF8))) := by
  rw [append_file (find_put stands slashless plain content),put_put]

theorem append_other (wrote : files.append text body = .ok final) (other : String) :
    ∃ last, files.append text other = .ok last := by
  obtain ⟨path,⟨content,found,_⟩ | ⟨found,_⟩⟩ := append_cases wrote
  · exact ⟨_,append_file found other⟩
  · exact ⟨_,append_null found other⟩

theorem append_error {cause : FileError} (failed : files.append text body = .error cause) (other : String) :
    files.append text other = .error cause := by
  unfold append at failed ⊢
  cases found : files.find text with
  | error missing => rw [found] at failed; exact failed
  | ok there =>
    obtain ⟨path,node⟩ := there
    rw [found] at failed
    cases node with
    | file content => cases failed
    | directory => exact failed
    | device device =>
      cases device with
      | null => cases failed
      | full => exact failed

theorem append_append {middle : FileSystem} (wrote : files.append text body = .ok middle) (more : String) :
    middle.append text more = files.append text (body ++ more) := by
  obtain ⟨path,⟨content,found,rfl⟩ | ⟨found,rfl⟩⟩ := append_cases wrote
  · obtain ⟨stands,here,isDirectory | slashless⟩ := find_cases found
    · cases isDirectory
    · have plain : files.node? path ≠ some .directory := by
        rw [here]
        exact nofun
      rw [append_put stands slashless plain,append_file found]
      simp only [String.toUTF8,String.toByteArray_append,ByteArray.append_assoc]
  · rw [append_null found,append_null found]

-- A file can be created by this text, and whatever one likes be written to it.
def Writable (files : FileSystem) (text : String) : Prop :=
  ∃ created, files.create text = .ok created ∧ ∀ body, ∃ final, created.append text body = .ok final

-- The effect of creating a file by this text and writing the body to it. The null device swallows the body,
-- and then nothing has changed anywhere.
inductive Stores (files : FileSystem) (text body : String) (final : FileSystem) : Prop where
  | file {path : Path} (stands : files.Stands text path)
      (holds : final.find text = .ok (path,.file body.toUTF8))
      (others : ∀ other, other ≠ path → final.node? other = files.node? other)
  | swallowed {path : Path} (device : files.find text = .ok (path,.device .null)) (same : final = files)

theorem stores_of_append (made : files.create text = .ok created)
    (wrote : created.append text body = .ok final) : files.Stores text body final := by
  obtain ⟨path,stands,slashless,⟨device,here,rfl⟩ | ⟨plain,rfl⟩⟩ := create_cases made
  · have found := find_of_stands stands here slashless
    obtain ⟨_,⟨_,isFile,_⟩ | ⟨isNull,same⟩⟩ := append_cases wrote
    · rw [found] at isFile
      cases isFile
    · exact .swallowed isNull same
  · rw [append_put stands slashless plain,ByteArray.empty_append] at wrote
    cases wrote
    exact .file stands (find_put stands slashless plain _) fun other different =>
      node_put_other files path other _ different

end FileSystem
end PropFormula
