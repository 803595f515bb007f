import ScriptTree.Files
import ScriptTree.Proofs.Dictionary
import ScriptTree.Proofs.Except

/-!
# What reading and writing do to files

Of a state with files it is seen which file a path leads to, and which bytes a file has: `FileView`.
The laws of the operations are told by what is seen (`FileView.Lawful`): reading changes nothing, a
write that fails changes nothing, and a write that succeeds changes the file at its path and no
other. A file system that is a value obeys them (`FileSystem.lawful`), and so does a directory
(`Directory.lawful`), which is a part of one.
-/

namespace ScriptTree
set_option autoImplicit false

theorem fromUTF8?_toUTF8 (text : String) : String.fromUTF8? text.toUTF8 = some text := by
  rw [String.fromUTF8?, String.toUTF8_eq_toByteArray, dif_pos text.isValidUTF8]
  rfl

/-! ## The laws of files -/

/-- What is seen of a state with files. -/
structure FileView (σ File : Type) where
  /-- The file that a path leads to, which need not be there yet. -/
  file? : σ → String → Option File
  /-- The bytes of a file, if it is there. -/
  bytes? : σ → File → Option ByteArray

section

variable {σ : Type}

theorem run_bind_of_run {α β : Type} {x : StateM σ α} {f : α → StateM σ β} {s t : σ} {a : α}
    (ran : x.run s = (a, t)) : (x >>= f).run s = (f a).run t := by
  rw [StateT.run_bind, ran]
  rfl

variable [MonadFiles (StateM σ)]

/-- What reading at a path gives, with the state afterwards. -/
def readIn (s : σ) (path : String) : Except FileFault ByteArray × σ :=
  (MonadFiles.read path : StateM σ (Except FileFault ByteArray)).run s

/-- What writing at a path gives, with the state afterwards. -/
def writeIn (s : σ) (path : String) (bytes : ByteArray) : Except FileFault Unit × σ :=
  (MonadFiles.write path bytes : StateM σ (Except FileFault Unit)).run s

end

namespace FileView

variable {σ File : Type} (view : FileView σ File) {s t u : σ} {path : String} {bytes : ByteArray}

/-- A path leads to a file with the bytes. -/
def Holds (s : σ) (path : String) (bytes : ByteArray) : Prop :=
  ∃ file, view.file? s path = some file ∧ view.bytes? s file = some bytes

/-- Two states have the same files under the same paths. -/
def Same (s t : σ) : Prop :=
  (∀ path, view.file? t path = view.file? s path) ∧ ∀ file, view.bytes? t file = view.bytes? s file

/-- Two states differ in nothing but the file at a path, which has the bytes afterwards. -/
def Overwritten (s t : σ) (path : String) (bytes : ByteArray) : Prop :=
  ∃ file, view.file? s path = some file ∧ view.file? t path = some file ∧
    view.bytes? t file = some bytes ∧
    ∀ other, other ≠ file → view.bytes? t other = view.bytes? s other

/-- The laws of reading and writing. -/
structure Lawful [MonadFiles (StateM σ)] : Prop where
  /-- Reading changes nothing. -/
  read_same : ∀ {s t : σ} {path : String} {result : Except FileFault ByteArray},
    readIn s path = (result, t) → view.Same s t
  /-- What is read is what the file at the path has. -/
  read_ok : ∀ {s t : σ} {path : String} {bytes : ByteArray},
    readIn s path = (.ok bytes, t) → view.Holds s path bytes
  /-- A write that fails changes nothing. -/
  write_error : ∀ {s t : σ} {path : String} {bytes : ByteArray} {f : FileFault},
    writeIn s path bytes = (.error f, t) → view.Same s t
  /-- A write that succeeds changes the file at the path and no other. -/
  write_ok : ∀ {s t : σ} {path : String} {bytes : ByteArray},
    writeIn s path bytes = (.ok (), t) → view.Overwritten s t path bytes

variable {view}

theorem Same.refl (s : σ) : view.Same s s :=
  ⟨fun _ => rfl, fun _ => rfl⟩

theorem Same.trans (first : view.Same s t) (second : view.Same t u) : view.Same s u :=
  ⟨fun path => (second.1 path).trans (first.1 path),
    fun file => (second.2 file).trans (first.2 file)⟩

/-- What is overwritten in a state is overwritten in one with the same files. -/
theorem Same.overwritten (same : view.Same s t) (changed : view.Overwritten t u path bytes) :
    view.Overwritten s u path bytes := by
  obtain ⟨file, before, after, held, others⟩ := changed
  refine ⟨file, (same.1 path).symm.trans before, after, held, fun other differs => ?_⟩
  rw [others other differs, same.2]

/-- A path leads to one file, which has one content. -/
theorem Holds.eq {other : ByteArray} (held : view.Holds s path bytes)
    (again : view.Holds s path other) : bytes = other := by
  obtain ⟨file, leads, has⟩ := held
  obtain ⟨file', leads', has'⟩ := again
  obtain rfl : file = file' := Option.some.inj (leads.symm.trans leads')
  exact Option.some.inj (has.symm.trans has')

section

variable {read : σ → String → Except FileFault ByteArray}
  {write : σ → String → ByteArray → Except FileFault σ}

theorem writeIn_ofState_error {f : FileFault} (fails : write s path bytes = .error f) :
    @writeIn σ (.ofState read write) s path bytes = (.error f, s) := by
  simp only [writeIn, MonadFiles.write, StateT.run_bind, StateT.run_get, pure_bind, fails]
  rfl

theorem writeIn_ofState_ok (writes : write s path bytes = .ok t) :
    @writeIn σ (.ofState read write) s path bytes = (.ok (), t) := by
  simp only [writeIn, MonadFiles.write, StateT.run_bind, StateT.run_get, pure_bind, writes]
  rfl

/-- The laws for operations that are made of functions on the state. -/
theorem lawful_ofState
    (held : ∀ {s path bytes}, read s path = .ok bytes → view.Holds s path bytes)
    (changed : ∀ {s t path bytes}, write s path bytes = .ok t → view.Overwritten s t path bytes) :
    @Lawful σ File view (.ofState read write) := by
  -- the operations are no instance here, and the fields of the laws need one
  let files : MonadFiles (StateM σ) := .ofState read write
  constructor
  case read_same =>
    intro s t path result given
    obtain rfl : s = t := congrArg Prod.snd given
    exact .refl s
  case read_ok =>
    intro s t path bytes given
    exact held (congrArg Prod.fst given)
  case write_error =>
    intro s t path bytes f given
    cases result : write s path bytes with
    | error g =>
      cases (writeIn_ofState_error result).symm.trans given
      exact .refl s
    | ok u => cases (writeIn_ofState_ok result).symm.trans given
  case write_ok =>
    intro s t path bytes given
    cases result : write s path bytes with
    | error g => cases (writeIn_ofState_error result).symm.trans given
    | ok u =>
      cases (writeIn_ofState_ok result).symm.trans given
      exact changed result

end

end FileView

/-! ## File systems -/

namespace FileSystem

variable {fs : FileSystem} {path : String} {bytes : ByteArray} {place folder : Place}

/-- The place of the file that a path leads to. -/
def file? (fs : FileSystem) (path : String) : Option Place :=
  match fs.locate path with
  | .ok (.entry folder n false) => some (n :: folder)
  | _ => none

/-- The bytes of the file at a place. -/
def bytes? (fs : FileSystem) (place : Place) : Option ByteArray :=
  match fs.item? place with
  | some (.file bytes) => some bytes
  | _ => none

/-- The files of a file system are told by their places. -/
def view : FileView FileSystem Place :=
  ⟨file?, bytes?⟩

theorem file?_of_locate {n : String} (leads : fs.locate path = .ok (.entry folder n false)) :
    fs.file? path = some (n :: folder) := by
  rw [file?, leads]

theorem bytes?_of_item? (stands : fs.item? place = some (.file bytes)) :
    fs.bytes? place = some bytes := by
  rw [bytes?, stands]

theorem item?_put_self : (fs.put place bytes).item? place = some (.file bytes) :=
  if_pos rfl

theorem item?_put_of_ne {other : Place} (differs : other ≠ place) :
    (fs.put place bytes).item? other = fs.item? other :=
  if_neg differs

theorem bytes?_put_of_ne {other : Place} (differs : other ≠ place) :
    (fs.put place bytes).bytes? other = fs.bytes? other := by
  rw [bytes?, bytes?, item?_put_of_ne differs]

/-! ### Reading -/

theorem readTarget_eq_ok {target : Target} (given : fs.readTarget target = .ok bytes) :
    ∃ folder n, target = .entry folder n false ∧ fs.item? (n :: folder) = some (.file bytes) := by
  cases target with
  | folder => cases given
  | entry folder n slashed =>
    rw [readTarget] at given
    split at given
    · cases given
    split at given
    · cases given
    · cases given
    · rename_i stands
      split at given
      · cases given
      · rename_i unslashed
        obtain ⟨-, rfl⟩ := elim_eq_ok.1 given
        obtain rfl : slashed = false := by simpa using unslashed
        exact ⟨folder, n, rfl, stands⟩

/-- What is read is what the file at the path has. -/
theorem holds_of_read (given : fs.read path = .ok bytes) : view.Holds fs path bytes := by
  obtain ⟨target, leads, given⟩ := bind_eq_ok.1 given
  obtain ⟨folder, n, rfl, stands⟩ := readTarget_eq_ok given
  exact ⟨n :: folder, file?_of_locate leads, bytes?_of_item? stands⟩

/-! ### Writing -/

theorem writeTarget_eq_ok {target : Target} {n : String}
    (given : fs.writeTarget target = .ok (folder, n)) :
    target = .entry folder n false ∧ fs.item? (n :: folder) ≠ some .folder ∧
      fs.writeFault? (n :: folder) = none := by
  cases target with
  | folder => cases given
  | entry folder' n' slashed =>
    rw [writeTarget] at given
    split at given
    · cases given
    split at given
    · cases given
    split at given
    · cases given
    · rename_i unslashed _ _ noFolder
      obtain ⟨allowed, same⟩ := elim_eq_ok.1 given
      cases same
      obtain rfl : slashed = false := by simpa using unslashed
      exact ⟨rfl, noFolder, allowed⟩

/-- A file that is written changes no way through folders. -/
theorem enter_put (noFolder : fs.item? place ≠ some .folder) {next : Place} {part : PathPart}
    (entered : fs.enter folder part = .ok next) :
    (fs.put place bytes).enter folder part = .ok next := by
  cases part with
  | stay => exact entered
  | up => exact entered
  | name n =>
    rw [enter] at entered ⊢
    split at entered
    · cases entered
    · rename_i short
      rw [if_neg short]
      split at entered
      · rename_i stands
        have differs : n :: folder ≠ place := by
          rintro rfl
          exact noFolder stands
        rw [item?_put_of_ne differs, stands]
        exact entered
      · cases entered
      · cases entered

theorem follow_put (noFolder : fs.item? place ≠ some .folder) {slashed : Bool}
    {parts : List PathPart} {target : Target}
    (followed : fs.follow slashed folder parts = .ok target) :
    (fs.put place bytes).follow slashed folder parts = .ok target := by
  fun_induction follow fs slashed folder parts with
  | case1 => exact followed
  | case2 => exact followed
  | case3 folder part rest more ih =>
    obtain ⟨next, entered, followed⟩ := bind_eq_ok.1 followed
    rw [follow, enter_put noFolder entered]
    · exact ih next followed
    · exact more

theorem locate_put (noFolder : fs.item? place ≠ some .folder) {target : Target}
    (leads : fs.locate path = .ok target) : (fs.put place bytes).locate path = .ok target := by
  obtain ⟨p, checked, followed⟩ := bind_eq_ok.1 leads
  rw [locate, checked]
  exact follow_put noFolder followed

/-- A write that succeeds changes the file at the path and no other. -/
theorem overwritten_of_write {after : FileSystem} (given : fs.write path bytes = .ok after) :
    view.Overwritten fs after path bytes := by
  obtain ⟨⟨folder, n⟩, found, given⟩ := bind_eq_ok.1 given
  cases given
  obtain ⟨target, leads, found⟩ := bind_eq_ok.1 found
  obtain ⟨rfl, noFolder, -⟩ := writeTarget_eq_ok found
  exact ⟨n :: folder, file?_of_locate leads, file?_of_locate (locate_put noFolder leads),
    bytes?_of_item? item?_put_self, fun _ differs => bytes?_put_of_ne differs⟩

theorem lawful : view.Lawful :=
  FileView.lawful_ofState holds_of_read overwritten_of_write

end FileSystem

/-! ## Directories -/

namespace Directory

variable {d after : Directory} {path : String} {bytes : ByteArray}

/-- The files of a directory are those of its file system. -/
def view : FileView Directory Place :=
  ⟨fun d => d.system.file?, fun d => d.system.bytes?⟩

/-- A file that is put into a directory is put at its place in the file system. -/
theorem system_insert (d : Directory) (n : String) (bytes : ByteArray) :
    system (d.insert n bytes) = d.system.put (n :: home) bytes := by
  simp only [system, FileSystem.put, FileSystem.mk.injEq, and_true, true_and]
  funext place
  cases place with
  | nil => rfl
  | cons m folder =>
    by_cases inside : folder = home
    · by_cases same : m = n <;> simp [inside, same, d.get?_insert]
    · simp [inside]

/-- Writing in a directory is writing in its file system. -/
theorem system_write (given : d.write path bytes = .ok after) :
    d.system.write path bytes = .ok after.system := by
  obtain ⟨⟨folder, n⟩, found, given⟩ := bind_eq_ok.1 given
  cases given
  obtain ⟨target, -, allowed⟩ := bind_eq_ok.1 found
  obtain ⟨-, -, allowed⟩ := FileSystem.writeTarget_eq_ok allowed
  obtain rfl : folder = home := by
    refine Decidable.byContradiction fun outside => ?_
    simp [system, outside] at allowed
  rw [FileSystem.write, found, system_insert]
  rfl

theorem lawful : view.Lawful :=
  FileView.lawful_ofState FileSystem.holds_of_read
    fun given => FileSystem.overwritten_of_write (system_write given)

end Directory

end ScriptTree
