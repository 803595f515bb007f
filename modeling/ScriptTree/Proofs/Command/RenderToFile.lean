import ScriptTree.Command.Run
import ScriptTree.Proofs.Files
import ScriptTree.Proofs.Node.NormalForm

/-!
# Rendering a file into a file

What the command does to files that obey the laws of reading and writing: it writes the rendered
text of the tree that the input holds into the output, without the blanks at its end, and changes no
other file; or it fails at one of its steps and leaves all files as they were (`RenderEffect`). A
tree that was written to a file is rendered as the tree itself, if its text is not nested too deep
and its numbers are read back.
-/

namespace ScriptTree
set_option autoImplicit false
open Number

/-! ## Trees that are read back -/

/-- A number is read from its text as it is. -/
def Number.Binary64.readsBack (x : Binary64) : Bool :=
  match Json.readNumber (Json.realText x) with
  | .ok (.real y) => decide (y = x)
  | _ => false

/-- All numbers of a tree are read from their texts as they are. -/
def Node.ReadsBack (t : Node) : Prop :=
  ∀ x raw sType, (Node.literal (.number x) raw sType).Inside t → x.readsBack = true

theorem Number.Binary64.readNumber_of_readsBack {x : Binary64} (h : x.readsBack = true) :
    Json.readNumber (Json.realText x) = .ok (.real x) := by
  unfold readsBack at h
  split at h
  · rename_i read
    rw [read, of_decide_eq_true h]
  · cases h

namespace Node

theorem inRange_of_readsBack {t : Node} (back : t.ReadsBack) : t.InRange := by
  rintro negative m raw sType inside ⟨f, refused, -⟩
  have read := Binary64.readNumber_of_readsBack (back _ raw sType inside)
  rw [read] at refused
  cases refused

theorem canon_of_readsBack {t : Node} (back : t.ReadsBack) : t.canon = t := by
  refine (mapScalars_congr t fun value raw sType inside => ?_).trans (mapScalars_id t)
  cases value with
  | number x =>
    have same := back x raw sType inside
    have read := Binary64.readNumber_of_readsBack same
    cases x with
    | finite negative m => simp [Scalar.canon, Binary64.reread, read]
    | infinity negative => cases same
    | nan => cases same
  | _ => rfl

/-- A tree whose numbers are read back is read from its text as it is. -/
theorem ofText_toText_of_readsBack {t : Node} (shallow : t.toJson.depth ≤ 127)
    (back : t.ReadsBack) : ofText t.toText = .ok t := by
  rw [ofText_toText_of_inRange shallow (inRange_of_readsBack back), canon_of_readsBack back]

end Node

/-! ## The effect of the command -/

namespace Command

section

variable {σ File : Type}

/-- A file holds the text of a tree. -/
def HoldsTree (view : FileView σ File) (s : σ) (path : String) (tree : Node) : Prop :=
  ∃ bytes text, view.Holds s path bytes ∧ String.fromUTF8? bytes = some text ∧
    Node.ofText text = .ok tree

/-- The bytes that are written for a rendered text. -/
def trimmedBytes (code : String) : ByteArray :=
  (String.ofList (Text.trimEnd code.toList)).toUTF8

variable [MonadFiles (StateM σ)]

/-- What rendering a file into a file gives, with the state afterwards. -/
def renderIn (s : σ) (input output : String) : Except Error Unit × σ :=
  (renderToFile input output : StateM σ (Except Error Unit)).run s

/-- What rendering a file into a file may give, with the state afterwards: it fails at one of its
steps and changes nothing, or the output holds the rendered text of the tree and is all that
changes. -/
inductive RenderEffect (view : FileView σ File) (s : σ) (input output : String) :
    Except Error Unit × σ → Prop where
  | unread {f : FileFault} {after : σ} (fails : readIn s input = (.error f, after))
      (same : view.Same s after) : RenderEffect view s input output (.error (.files f), after)
  | notText {bytes : ByteArray} {after : σ} (held : view.Holds s input bytes)
      (fails : String.fromUTF8? bytes = none) (same : view.Same s after) :
      RenderEffect view s input output (.error (.files .notText), after)
  | noTree {bytes : ByteArray} {text : String} {f : TreeFault} {after : σ}
      (held : view.Holds s input bytes) (decoded : String.fromUTF8? bytes = some text)
      (fails : Node.ofText text = .error f) (same : view.Same s after) :
      RenderEffect view s input output (.error (.tree f), after)
  | notRendered {tree : Node} {f : RenderFault} {after : σ} (held : HoldsTree view s input tree)
      (fails : tree.render = .error f) (same : view.Same s after) :
      RenderEffect view s input output (.error (.render f), after)
  | unwritten {tree : Node} {code : String} {f : FileFault} {before after : σ}
      (held : HoldsTree view s input tree) (rendered : tree.render = .ok code)
      (read : view.Same s before)
      (fails : writeIn before output (trimmedBytes code) = (.error f, after))
      (same : view.Same s after) : RenderEffect view s input output (.error (.files f), after)
  | written {tree : Node} {code : String} {after : σ} (held : HoldsTree view s input tree)
      (rendered : tree.render = .ok code)
      (changed : view.Overwritten s after output (trimmedBytes code)) :
      RenderEffect view s input output (.ok (), after)

/-! ### The steps of a run -/

variable {s before after : σ} {input output : String} {bytes : ByteArray} {code : String}

theorem renderIn_unread {f : FileFault} (fails : readIn s input = (.error f, after)) :
    renderIn s input output = (.error (.files f), after) := by
  rw [renderIn, renderToFile, run_bind_of_run fails]
  rfl

theorem renderIn_refused {e : Error} (read : readIn s input = (.ok bytes, after))
    (fails : renderBytes bytes = .error e) : renderIn s input output = (.error e, after) := by
  rw [renderIn, renderToFile, run_bind_of_run read]
  simp only [fails]
  rfl

/-- A run that comes to its last step gives what writing gives. -/
theorem renderIn_rendered (read : readIn s input = (.ok bytes, before))
    (rendered : renderBytes bytes = .ok code) {result : Except FileFault Unit}
    (written : writeIn before output code.toUTF8 = (result, after)) :
    renderIn s input output = (result.mapError .files, after) := by
  rw [renderIn, renderToFile, run_bind_of_run read]
  simp only [rendered]
  exact run_bind_of_run written

end

/-! ### What the bytes of a file are rendered as -/

section

variable {bytes : ByteArray} {text : String} {tree : Node}

theorem renderBytes_of_notText (fails : String.fromUTF8? bytes = none) :
    renderBytes bytes = .error (.files .notText) := by
  simp [renderBytes, textOfBytes, fails, Except.mapError]

theorem renderBytes_of_noTree {f : TreeFault} (decoded : String.fromUTF8? bytes = some text)
    (fails : Node.ofText text = .error f) : renderBytes bytes = .error (.tree f) := by
  simp [renderBytes, textOfBytes, decoded, fails, Except.mapError]

theorem renderBytes_of_notRendered {f : RenderFault}
    (decoded : String.fromUTF8? bytes = some text) (parsed : Node.ofText text = .ok tree)
    (fails : tree.render = .error f) : renderBytes bytes = .error (.render f) := by
  simp [renderBytes, textOfBytes, decoded, parsed, fails, Except.mapError]

theorem renderBytes_of_rendered {code : String} (decoded : String.fromUTF8? bytes = some text)
    (parsed : Node.ofText text = .ok tree) (rendered : tree.render = .ok code) :
    renderBytes bytes = .ok (String.ofList (Text.trimEnd code.toList)) := by
  simp [renderBytes, textOfBytes, decoded, parsed, rendered, Except.mapError]

end

/-! ### The effect of a run -/

section

variable {σ File : Type} [MonadFiles (StateM σ)] {view : FileView σ File}

/-- Every run has one of the effects. -/
theorem renderEffect_renderIn (lawful : view.Lawful) (s : σ) (input output : String) :
    RenderEffect view s input output (renderIn s input output) := by
  cases read : readIn s input with
  | mk result before =>
    have same := lawful.read_same read
    cases result with
    | error f =>
      rw [renderIn_unread read]
      exact .unread read same
    | ok bytes =>
      have holds := lawful.read_ok read
      cases decoded : String.fromUTF8? bytes with
      | none =>
        rw [renderIn_refused read (renderBytes_of_notText decoded)]
        exact .notText holds decoded same
      | some text =>
        cases parsed : Node.ofText text with
        | error f =>
          rw [renderIn_refused read (renderBytes_of_noTree decoded parsed)]
          exact .noTree holds decoded parsed same
        | ok tree =>
          have held : HoldsTree view s input tree := ⟨bytes, text, holds, decoded, parsed⟩
          cases rendered : tree.render with
          | error f =>
            rw [renderIn_refused read (renderBytes_of_notRendered decoded parsed rendered)]
            exact .notRendered held rendered same
          | ok code =>
            have made := renderBytes_of_rendered decoded parsed rendered
            cases written : writeIn before output (trimmedBytes code) with
            | mk outcome after =>
              rw [renderIn_rendered read made written]
              cases outcome with
              | error f =>
                exact .unwritten held rendered same written
                  (same.trans (lawful.write_error written))
              | ok _ => exact .written held rendered (same.overwritten (lawful.write_ok written))

/-- **Rendering a file into a file** either changes exactly the output, which holds the rendered
text of the tree in the input without the blanks at its end, or fails at one of its steps and
changes nothing. If the input holds the text of a tree that is not nested too deep and whose numbers
are read back, and the input can be read, then it is that tree that is rendered into the output, or
fails to be. -/
theorem renderToFile_effect (lawful : view.Lawful) (s : σ) (input output : String) :
    RenderEffect view s input output (renderIn s input output) ∧
      ∀ t : Node, t.toJson.depth ≤ 127 → t.ReadsBack → view.Holds s input t.toText.toUTF8 →
        ∀ bytes before, readIn s input = (.ok bytes, before) →
          (∀ code, t.render = .ok code →
            (∀ after, writeIn before output (trimmedBytes code) = (.ok (), after) →
              renderIn s input output = (.ok (), after) ∧
                view.Overwritten s after output (trimmedBytes code)) ∧
            ∀ f after, writeIn before output (trimmedBytes code) = (.error f, after) →
              renderIn s input output = (.error (.files f), after) ∧ view.Same s after) ∧
          ∀ f, t.render = .error f →
            renderIn s input output = (.error (.render f), before) ∧ view.Same s before := by
  refine ⟨renderEffect_renderIn lawful s input output, ?_⟩
  intro t shallow back held bytes before read
  obtain rfl := (lawful.read_ok read).eq held
  have decoded := fromUTF8?_toUTF8 t.toText
  have parsed := Node.ofText_toText_of_readsBack shallow back
  have same := lawful.read_same read
  refine ⟨fun code rendered => ?_, fun f fails => ?_⟩
  · have made := renderBytes_of_rendered decoded parsed rendered
    constructor
    · intro after written
      exact ⟨renderIn_rendered read made written, same.overwritten (lawful.write_ok written)⟩
    · intro f after fails
      exact ⟨renderIn_rendered read made fails, same.trans (lawful.write_error fails)⟩
  · exact ⟨renderIn_refused read (renderBytes_of_notRendered decoded parsed fails), same⟩

end

/-- A program with a comment and a number. -/
def numberTree (x : Binary64) : Node :=
  .program [.comment ⟨"Line", " a number"⟩, .statement (.literal (.number x) "" none)] .script

theorem readsBack_numberTree {x : Binary64} (back : x.readsBack = true) :
    (numberTree x).ReadsBack := by
  rintro y raw sType inside
  cases inside with
  | child member inside =>
    simp only [numberTree, Node.children, List.mem_cons, List.not_mem_nil, or_false] at member
    rcases member with rfl | rfl
    · cases inside with
      | child member inside => cases member
    · cases inside with
      | child member inside =>
        obtain rfl := List.mem_singleton.1 member
        cases inside with
        | self => exact back
        | child member inside => cases member

/-- A file system with the text of a tree where the program works, and a folder beside that with a
file that may not be written. -/
def twoFolders (tree : ByteArray) : FileSystem where
  current := ["work"]
  item? place :=
    if place = ["work"] ∨ place = ["out"] then some .folder
    else if place = ["a.json", "work"] then some (.file tree)
    else if place = ["old.js", "out"] then some (.file "old".toUTF8)
    else none
  readFault? _ := none
  writeFault? place :=
    if place = ["old.js", "out"] then some (.other "Permission denied (os error 13)") else none

/-- The output may be in another folder, or it may be the input under another path. An output that
may not be written stays as it is. -/
theorem renderToFile_effect_twoFolders :
    let t := numberTree (.ofDecimal false 5 (-1))
    let fs := twoFolders t.toText.toUTF8
    let d : Directory := Dictionary.empty.insert "a.json" t.toText.toUTF8
    t.toJson.depth ≤ 127 ∧ t.ReadsBack ∧ t.render = .ok "// a number\n.5;\n" ∧
      FileSystem.view.Lawful ∧ FileSystem.view.Holds fs "a.json" t.toText.toUTF8 ∧
      (∃ after, renderIn fs "a.json" "/work/../out/b.js" = (.ok (), after) ∧
        FileSystem.view.Overwritten fs after "/work/../out/b.js" "// a number\n.5;".toUTF8) ∧
      (∃ after, renderIn fs "a.json" "../out/old.js" =
          (.error (.files (.other "Permission denied (os error 13)")), after) ∧
        FileSystem.view.Same fs after) ∧
      Directory.view.Lawful ∧ Directory.view.Holds d "a.json" t.toText.toUTF8 ∧
      ∃ after, renderIn d "a.json" "./a.json" = (.ok (), after) ∧
        Directory.view.Overwritten d after "./a.json" "// a number\n.5;".toUTF8 := by
  intro t fs d
  have shallow : t.toJson.depth ≤ 127 := by decide
  have back : t.ReadsBack := readsBack_numberTree (by decide +kernel)
  have rendered : t.render = .ok "// a number\n.5;\n" := by decide +kernel
  have trimmed : trimmedBytes "// a number\n.5;\n" = "// a number\n.5;".toUTF8 := by
    have kept : String.ofList (Text.trimEnd "// a number\n.5;\n".toList) = "// a number\n.5;" := by
      decide +kernel
    rw [trimmedBytes, kept]
  have held : FileSystem.view.Holds fs "a.json" t.toText.toUTF8 := FileSystem.holds_of_read rfl
  have heldAlone : Directory.view.Holds d "a.json" t.toText.toUTF8 := FileSystem.holds_of_read rfl
  have beside := ((renderToFile_effect FileSystem.lawful fs "a.json" "/work/../out/b.js").2 t
    shallow back held _ fs rfl).1 _ rendered
  have refused := ((renderToFile_effect FileSystem.lawful fs "a.json" "../out/old.js").2 t
    shallow back held _ fs rfl).1 _ rendered
  have onto := ((renderToFile_effect Directory.lawful d "a.json" "./a.json").2 t
    shallow back heldAlone _ d rfl).1 _ rendered
  rw [trimmed] at beside refused onto
  exact ⟨shallow, back, rendered, FileSystem.lawful, held, ⟨_, beside.1 _ rfl⟩,
    ⟨_, refused.2 _ _ rfl⟩, Directory.lawful, heldAlone, ⟨_, onto.1 _ rfl⟩⟩

end Command

end ScriptTree
