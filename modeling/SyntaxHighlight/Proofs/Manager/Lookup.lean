/-
What looking names up makes of a repository. The search path is looked through at most once: after
that the same names stand for the same definitions until something else changes. If that replaces
no definition that is known already, nobody can tell whether it has happened.
-/

import SyntaxHighlight.Manager.Repository
import SyntaxHighlight.Proofs.Mode.Pool
import SyntaxHighlight.Proofs.Text.Dictionary

namespace SyntaxHighlight

/-! ### Definitions in files -/

/-- The names of the definitions whose texts are in the files of a tree. -/
def FileTree.definitionNames (files : FileTree) : List String :=
  files.entries.filterMap fun (_, entry) =>
    match entry with
    | .file (some text) => (Definition.read text).toOption.map Definition.name
    | _ => none

theorem FileTree.mem_definitionNames {files : FileTree} {path text : String}
    {definition : Definition} (read : files.read path = .ok text)
    (accepted : Definition.read text = .ok definition) :
    definition.name ∈ files.definitionNames := by
  obtain ⟨parts, -, read⟩ := bind_eq_ok.mp read
  split at read
  · cases read
  · cases read
  · rename_i content found
    split at read
    · cases read
    · cases content with
      | none => cases read
      | some content =>
          cases read
          unfold entry? at found
          split at found
          · cases found
          · refine List.mem_filterMap.mpr ⟨_, Dictionary.mem_of_get? found, ?_⟩
            simp only [accepted, Except.toOption, Option.map_some]

namespace Repository

variable {repository after : Repository} {files : FileTree} {path text name : String}
  {definition : Definition}

def take (repository : Repository) (definition : Definition) : Repository :=
  { repository with
    definitions := repository.definitions.set definition.name definition
    globs := repository.globs.set definition.name definition.globs }

/-- The definition that is taken in when a file is loaded, if it can be loaded. -/
def fromFile? (files : FileTree) (path : String) : Option Definition :=
  (({} : Repository).loadFile files path).toOption.map Prod.snd

theorem get?_take (repository : Repository) (definition : Definition) (name : String) :
    (repository.take definition).definitions.get? name =
      if definition.name = name then some definition else repository.definitions.get? name :=
  Dictionary.get?_set repository.definitions definition.name name definition

theorem register_eq_ok_iff :
    repository.register definition = .ok after ↔
      definition.fault? = none ∧ after = repository.take definition := by
  unfold register
  cases definition.fault? with
  | some fault => simp
  | none => simp [take, eq_comm]

theorem loadAs_eq (file : Option String) :
    repository.loadAs text file =
      ((({} : Repository).loadAs text file).map fun (_, definition) =>
        (repository.take definition, definition)) := by
  unfold loadAs
  cases Definition.read text with
  | error error => rfl
  | ok bare =>
      simp only [Except.mapError, bind, Except.bind, register]
      cases ({ bare with file } : Definition).fault? <;> rfl

theorem loadAs_eq_ok {file : Option String}
    (loaded : repository.loadAs text file = .ok (after, definition)) :
    definition.fault? = none ∧ after = repository.take definition := by
  obtain ⟨bare, -, loaded⟩ := bind_eq_ok.mp loaded
  obtain ⟨registered, accepted, loaded⟩ := bind_eq_ok.mp loaded
  cases loaded
  exact register_eq_ok_iff.mp accepted

/-- A text of a definition that is of use can be loaded whatever else is known. -/
theorem loadAs_of_read {bare : Definition} (parsed : Definition.read text = .ok bare)
    (sound : bare.fault? = none) (file : Option String) :
    repository.loadAs text file =
      .ok (repository.take { bare with file }, { bare with file }) := by
  have registered : repository.register { bare with file } =
      .ok (repository.take { bare with file }) :=
    register_eq_ok_iff.mpr ⟨sound, rfl⟩
  simp only [loadAs, parsed, Except.mapError, bind, Except.bind, registered]
  rfl

theorem loadText_eq_ok (loaded : repository.loadText text = .ok (after, definition)) :
    definition.fault? = none ∧ after = repository.take definition :=
  loadAs_eq_ok loaded

theorem loadFile_eq (repository : Repository) (files : FileTree) (path : String) :
    repository.loadFile files path =
      ((({} : Repository).loadFile files path).map fun (_, definition) =>
        (repository.take definition, definition)) := by
  unfold loadFile
  cases files.read path with
  | error error => rfl
  | ok text => exact loadAs_eq (some path)

/-- Loading a file takes in what the file holds, whatever else is known. -/
theorem loadFile_eq_ok_iff :
    repository.loadFile files path = .ok (after, definition) ↔
      fromFile? files path = some definition ∧ after = repository.take definition := by
  unfold fromFile?
  rw [loadFile_eq]
  cases ({} : Repository).loadFile files path with
  | error error => simp [Except.map, Except.toOption]
  | ok loaded =>
      simp only [Except.map, Except.ok.injEq, Prod.mk.injEq, Except.toOption, Option.map_some,
        Option.some.injEq]
      constructor
      · rintro ⟨rfl, rfl⟩
        exact ⟨rfl, rfl⟩
      · rintro ⟨rfl, rfl⟩
        exact ⟨rfl, rfl⟩

theorem exists_of_fromFile? (found : fromFile? files path = some definition) :
    ∃ text bare, files.read path = .ok text ∧ Definition.read text = .ok bare ∧
      definition = { bare with file := some path } := by
  have loaded := (@loadFile_eq_ok_iff {} _ files path definition).mpr ⟨found, rfl⟩
  unfold loadFile at loaded
  cases read : files.read path with
  | error error =>
      rw [read] at loaded
      cases loaded
  | ok text =>
      rw [read] at loaded
      obtain ⟨bare, accepted, loaded⟩ := bind_eq_ok.mp loaded
      obtain ⟨registered, -, loaded⟩ := bind_eq_ok.mp loaded
      cases loaded
      refine ⟨text, bare, rfl, ?_, rfl⟩
      cases parsed : Definition.read text with
      | error error =>
          rw [parsed] at accepted
          cases accepted
      | ok other =>
          rw [parsed] at accepted
          cases accepted
          rfl

theorem loadFile_of_read {bare : Definition} (read : files.read path = .ok text)
    (parsed : Definition.read text = .ok bare) (sound : bare.fault? = none) :
    repository.loadFile files path =
      .ok (repository.take { bare with file := some path }, { bare with file := some path }) := by
  unfold loadFile
  rw [read]
  exact loadAs_of_read parsed sound (some path)

theorem fromFile?_of_read {bare : Definition} (read : files.read path = .ok text)
    (parsed : Definition.read text = .ok bare) (sound : bare.fault? = none) :
    fromFile? files path = some { bare with file := some path } :=
  (@loadFile_eq_ok_iff {} _ files path _).mp (loadFile_of_read read parsed sound) |>.1

theorem file_of_fromFile? (found : fromFile? files path = some definition) :
    definition.file = some path := by
  obtain ⟨text, bare, -, -, rfl⟩ := exists_of_fromFile? found
  rfl

theorem fault?_of_fromFile? (found : fromFile? files path = some definition) :
    definition.fault? = none := by
  have loaded := (@loadFile_eq_ok_iff {} _ files path definition).mpr ⟨found, rfl⟩
  unfold loadFile at loaded
  split at loaded
  · exact (loadAs_eq_ok loaded).1
  · cases loaded

theorem name_mem_of_fromFile? (found : fromFile? files path = some definition) :
    definition.name ∈ files.definitionNames := by
  obtain ⟨text, bare, read, accepted, rfl⟩ := exists_of_fromFile? found
  have member := FileTree.mem_definitionNames read accepted
  exact member

/-! ### Looking through the search path -/

theorem scan_fst (repository : Repository) (files : FileTree) :
    (repository.scan files).1 =
      ((repository.definitionFiles files).filterMap (fromFile? files)).foldl take
        { repository with scanned := true } := by
  unfold scan
  generalize repository.definitionFiles files = paths
  generalize ({ repository with scanned := true } : Repository) = start
  generalize 0 = count
  induction paths generalizing start count with
  | nil => rfl
  | cons path rest ih =>
      rw [List.foldl_cons]
      dsimp only
      cases loaded : start.loadFile files path with
      | error error =>
          have nothing : fromFile? files path = none := by
            rw [Option.eq_none_iff_forall_ne_some]
            intro definition found
            have accepted := loadFile_eq_ok_iff.mpr ⟨found, @rfl _ (start.take definition)⟩
            cases loaded.symm.trans accepted
          rw [List.filterMap_cons_none nothing]
          exact ih start count
      | ok result =>
          obtain ⟨found, same⟩ := loadFile_eq_ok_iff.mp loaded
          rw [List.filterMap_cons_some found, List.foldl_cons, ← same]
          exact ih result.1 (count + 1)

/-- What holds of a repository and of those that take in more from files holds after the search
path is looked through. -/
theorem scan_keeps {keeps : Repository → Prop}
    (taken : ∀ before path definition, fromFile? files path = some definition → keeps before →
      keeps (before.take definition))
    (start : keeps { repository with scanned := true }) : keeps (repository.scan files).1 := by
  rw [scan_fst]
  have fromFiles : ∀ definition ∈ (repository.definitionFiles files).filterMap (fromFile? files),
      ∃ path, fromFile? files path = some definition := by
    intro definition member
    obtain ⟨path, -, found⟩ := List.mem_filterMap.mp member
    exact ⟨path, found⟩
  generalize (repository.definitionFiles files).filterMap (fromFile? files) = definitions
    at fromFiles
  generalize ({ repository with scanned := true } : Repository) = before at start
  induction definitions generalizing before with
  | nil => exact start
  | cons definition rest ih =>
      rw [List.forall_mem_cons] at fromFiles
      obtain ⟨⟨path, found⟩, others⟩ := fromFiles
      exact ih others (before.take definition) (taken before path definition found start)

theorem scan_scanned (repository : Repository) (files : FileTree) :
    (repository.scan files).1.scanned = true :=
  @scan_keeps repository files (fun after => after.scanned = true) (fun _ _ _ _ same => same) rfl

/-- A name that stands for something afterwards did so before, or it stands for what a file
holds. -/
theorem get?_scan (found : (repository.scan files).1.definitions.get? name = some definition) :
    repository.definitions.get? name = some definition ∨
      (definition.name = name ∧ ∃ path, fromFile? files path = some definition) := by
  revert found
  refine @scan_keeps repository files (fun after =>
    after.definitions.get? name = some definition →
      repository.definitions.get? name = some definition ∨
        (definition.name = name ∧ ∃ path, fromFile? files path = some definition)) ?_ Or.inl
  intro before path other held known found
  rw [get?_take] at found
  split at found
  · rename_i same
    cases found
    exact Or.inr ⟨same, path, held⟩
  · exact known found

theorem ensureScanned_cases (repository : Repository) (files : FileTree) :
    repository.ensureScanned files = repository ∨
      (repository.scanned = false ∧
        repository.ensureScanned files = (repository.scan files).1) := by
  unfold ensureScanned
  cases scanned : repository.scanned with
  | true => exact Or.inl rfl
  | false =>
      split
      · exact Or.inl rfl
      · exact Or.inr ⟨rfl, rfl⟩

theorem ensureScanned_idem (repository : Repository) (files : FileTree) :
    (repository.ensureScanned files).ensureScanned files = repository.ensureScanned files := by
  rcases ensureScanned_cases repository files with same | ⟨-, looked⟩
  · rw [same, same]
  · rw [looked, ensureScanned, scan_scanned]
    rfl

/-! ### Lookups -/

theorem find?_of_known (known : repository.definitions.get? name = some definition) :
    find? files name repository = (some definition, repository) := by
  simp only [find?, bind, StateT.bind, get, getThe, MonadStateOf.get, StateT.get, pure, known]
  rfl

theorem find?_of_unknown (unknown : repository.definitions.get? name = none) :
    find? files name repository =
      ((repository.ensureScanned files).definitions.get? name, repository.ensureScanned files) := by
  simp only [find?, bind, StateT.bind, get, getThe, MonadStateOf.get, StateT.get, pure, unknown]
  rfl

/-- A lookup by name answers with what is known under the name afterwards. -/
theorem find?_fst (repository : Repository) (files : FileTree) (name : String) :
    (find? files name repository).1 = (find? files name repository).2.definitions.get? name := by
  cases known : repository.definitions.get? name with
  | none => rw [find?_of_unknown known]
  | some definition =>
      rw [find?_of_known known]
      exact known.symm

theorem findForFile?_snd (repository : Repository) (files : FileTree) (path : String) :
    (findForFile? files path repository).2 = repository.ensureScanned files := rfl

theorem findForFile?_congr {one other : Repository}
    (same : one.ensureScanned files = other.ensureScanned files) (path : String) :
    findForFile? files path one = findForFile? files path other := by
  simp only [findForFile?, bind, StateT.bind, modify, modifyGet, MonadStateOf.modifyGet,
    StateT.modifyGet, pure, same]

/-! ### What lookups keep -/

section Keeps

variable {keeps : Repository → Prop} {maxDepth : Nat}
  (looked : ∀ before, keeps before → keeps (before.ensureScanned files))

include looked

theorem find?_keeps (name : String) (kept : keeps repository) :
    keeps (find? files name repository).2 := by
  cases found : repository.definitions.get? name with
  | none =>
      rw [find?_of_unknown found]
      exact looked repository kept
  | some definition =>
      rw [find?_of_known found]
      exact kept

theorem definition_keeps (name : String) (kept : keeps repository) :
    keeps (repository.definition files name).1 :=
  find?_keeps looked name kept

theorem compile_keeps (name : String) (maxDepth : Nat) (kept : keeps repository) :
    keeps (repository.compile files name maxDepth).1 := by
  have found := definition_keeps looked name kept
  unfold compile
  split
  · rename_i missing
    rw [missing] at found
    exact found
  · rename_i present
    rw [present] at found
    exact followReferences_keeps (fun name _ => find?_keeps looked name) _ _ _ found

end Keeps

/-! ### Names and what stands under them -/

/-- Every definition that is known is of use, it is known under its own name, and no name is there
twice. The patterns of the names of files are those of the definitions. -/
structure IsCoherent (repository : Repository) : Prop where
  nodup : repository.definitions.keys.Nodup
  named : ∀ entry ∈ repository.definitions, entry.2.name = entry.1
  sound : ∀ entry ∈ repository.definitions, entry.2.fault? = none
  globs_eq : repository.globs = repository.definitions.map (Prod.map id Definition.globs)

theorem IsCoherent.get?_name (coherent : repository.IsCoherent)
    (found : repository.definitions.get? name = some definition) : definition.name = name :=
  coherent.named _ (Dictionary.mem_of_get? found)

theorem isCoherent_empty : ({} : Repository).IsCoherent where
  nodup := List.nodup_nil
  named := List.forall_mem_nil _
  sound := List.forall_mem_nil _
  globs_eq := rfl

theorem IsCoherent.take (coherent : repository.IsCoherent) (sound : definition.fault? = none) :
    (repository.take definition).IsCoherent where
  nodup := Dictionary.nodup_keys_set coherent.nodup definition.name definition
  named := by
    intro entry member
    rcases Dictionary.mem_set member with rfl | known
    · rfl
    · exact coherent.named entry known
  sound := by
    intro entry member
    rcases Dictionary.mem_set member with rfl | known
    · exact sound
    · exact coherent.sound entry known
  globs_eq := by
    rw [Repository.take, coherent.globs_eq]
    exact Dictionary.set_map _ _ Definition.globs definition

theorem IsCoherent.forget (coherent : repository.IsCoherent) (name : String) :
    (repository.forget name).IsCoherent where
  nodup := coherent.nodup.sublist ((Dictionary.erase_sublist name _).map Prod.fst)
  named := fun entry member =>
    coherent.named entry ((Dictionary.erase_sublist name _).subset member)
  sound := fun entry member =>
    coherent.sound entry ((Dictionary.erase_sublist name _).subset member)
  globs_eq := by
    rw [Repository.forget, coherent.globs_eq]
    exact Dictionary.erase_map _ _ Definition.globs

theorem IsCoherent.addSearchPath (coherent : repository.IsCoherent) (path : String) :
    (repository.addSearchPath path).IsCoherent :=
  ⟨coherent.nodup, coherent.named, coherent.sound, coherent.globs_eq⟩

theorem IsCoherent.scan (coherent : repository.IsCoherent) (files : FileTree) :
    (repository.scan files).1.IsCoherent :=
  scan_keeps (fun _ _ _ held before => before.take (fault?_of_fromFile? held))
    ⟨coherent.nodup, coherent.named, coherent.sound, coherent.globs_eq⟩

theorem IsCoherent.looked (before : Repository) (coherent : before.IsCoherent) :
    (before.ensureScanned files).IsCoherent := by
  rcases ensureScanned_cases before files with same | ⟨-, looked⟩
  · rw [same]
    exact coherent
  · rw [looked]
    exact coherent.scan files

/-! ### What names stand for in the end -/

/-- What a name stands for when the search path has been looked through. -/
def settled? (repository : Repository) (files : FileTree) (name : String) : Option Definition :=
  (repository.ensureScanned files).definitions.get? name

/-- Looking through the search path replaces no definition that is known. -/
def IsSteady (repository : Repository) (files : FileTree) : Prop :=
  ∀ name definition, repository.definitions.get? name = some definition →
    repository.settled? files name = some definition

/-- What looking names up may make of a repository. -/
def MayBecome (files : FileTree) (repository after : Repository) : Prop :=
  after = repository ∨ after = repository.ensureScanned files

variable {base one other : Repository}

theorem MayBecome.ensureScanned (mayBecome : base.MayBecome files after) :
    after.ensureScanned files = base.ensureScanned files := by
  rcases mayBecome with rfl | rfl
  · rfl
  · exact ensureScanned_idem base files

theorem MayBecome.looked (before : Repository) (mayBecome : base.MayBecome files before) :
    base.MayBecome files (before.ensureScanned files) :=
  Or.inr mayBecome.ensureScanned

theorem IsSteady.find?_fst (steady : base.IsSteady files) (mayBecome : base.MayBecome files after)
    (name : String) : (find? files name after).1 = base.settled? files name := by
  cases found : after.definitions.get? name with
  | none =>
      rw [find?_of_unknown found, mayBecome.ensureScanned]
      rfl
  | some definition =>
      rw [find?_of_known found]
      rcases mayBecome with rfl | rfl
      · exact (steady name definition found).symm
      · exact found.symm

theorem IsSteady.definition_snd (steady : base.IsSteady files)
    (mayBecome : base.MayBecome files after) (name : String) :
    (after.definition files name).2 =
      match base.settled? files name with
      | some definition => .ok definition
      | none => .error (.definitionNotFound name) := by
  rw [← steady.find?_fst mayBecome name]
  rfl

/-- What a name stands for is known, or a file holds it; so the limit of the search that makes a
mode is never reached. -/
theorem IsCoherent.length_settled_le (coherent : base.IsCoherent)
    (mayBecome : base.MayBecome files after) {calls : List String} (distinct : calls.Nodup) :
    (calls.filterMap (base.settled? files)).length ≤
      after.definitions.length + files.entries.length := by
  have named : ∀ name definition, base.settled? files name = some definition →
      definition.name = name :=
    fun _ _ found => (coherent.looked base).get?_name found
  have covered : (calls.filterMap (base.settled? files)).map Definition.name ⊆
      after.definitions.keys ++ files.definitionNames := by
    intro name member
    obtain ⟨definition, isFound, rfl⟩ := List.mem_map.mp member
    obtain ⟨name, -, found⟩ := List.mem_filterMap.mp isFound
    rw [named name definition found, List.mem_append]
    have known : ∀ {repository : Repository},
        repository.definitions.get? name = some definition → name ∈ repository.definitions.keys :=
      fun found => Dictionary.mem_keys_of_mem (Dictionary.mem_of_get? found)
    rcases mayBecome with rfl | rfl
    · rcases ensureScanned_cases after files with same | ⟨-, looked⟩
      · unfold settled? at found
        rw [same] at found
        exact Or.inl (known found)
      · unfold settled? at found
        rw [looked] at found
        rcases get?_scan found with old | ⟨rfl, path, held⟩
        · exact Or.inl (known old)
        · exact Or.inr (name_mem_of_fromFile? held)
    · exact Or.inl (known found)
  have few := (List.subperm_of_subset (nodup_map_name named distinct) covered).length_le
  rw [List.length_map, List.length_append, Dictionary.keys, List.length_map] at few
  exact few.trans (Nat.add_le_add_left (List.length_filterMap_le _ _) _)

/-- Making a mode gives the same before and after the search path is looked through. -/
theorem IsSteady.compile_snd (steady : base.IsSteady files) (coherent : base.IsCoherent)
    (ofOne : base.MayBecome files one) (ofOther : base.MayBecome files other) (name : String)
    (maxDepth : Nat) :
    (one.compile files name maxDepth).2 = (other.compile files name maxDepth).2 := by
  have made : ∀ main, base.settled? files name = some main → ∃ others,
      ∀ {repository : Repository}, base.MayBecome files repository →
        (repository.compile files name maxDepth).2 = Mode.ofDefinitions main others maxDepth := by
    intro main found
    have named : ∀ name definition, base.settled? files name = some definition →
        definition.name = name :=
      fun _ _ found => (coherent.looked base).get?_name found
    have finite : ∀ name definition, base.settled? files name = some definition →
        definition ∈ (base.ensureScanned files).definitions.map Prod.snd :=
      fun name definition found => List.mem_map_of_mem (Dictionary.mem_of_get? found)
    obtain ⟨calls, follows⟩ := exists_follows named finite [main.name] main.references
    have answers : ∀ name state, base.MayBecome files state →
        (find? files name state).1 = base.settled? files name ∧
          base.MayBecome files (find? files name state).2 :=
      fun name state valid =>
        ⟨steady.find?_fst valid name, find?_keeps MayBecome.looked name valid⟩
    refine ⟨calls.filterMap (base.settled? files), ?_⟩
    intro repository mayBecome
    have answered := steady.definition_snd mayBecome name
    have later := definition_keeps MayBecome.looked name mayBecome
    rw [found] at answered
    unfold compile
    split
    · rename_i missing
      rw [missing] at answered
      cases answered
    · rename_i reached present
      rw [present] at answered later
      cases answered
      have collected := follows.followReferences_eq answers _
        (coherent.length_settled_le later follows.fresh.1) _ later
      exact congrArg (fun result => Mode.ofDefinitions main result.1 maxDepth) collected
  cases found : base.settled? files name with
  | some main =>
      obtain ⟨others, same⟩ := made main found
      rw [same ofOne, same ofOther]
  | none =>
      have missing : ∀ {repository : Repository}, base.MayBecome files repository →
          (repository.compile files name maxDepth).2 = .error (.definitionNotFound name) := by
        intro repository mayBecome
        have answered := steady.definition_snd mayBecome name
        rw [found] at answered
        unfold compile
        split
        · rename_i failed
          rw [failed] at answered
          cases answered
          rfl
        · rename_i present
          rw [present] at answered
          cases answered
      rw [missing ofOne, missing ofOther]

end Repository

end SyntaxHighlight
