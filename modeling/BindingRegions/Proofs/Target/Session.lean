import BindingRegions.Proofs.Run.Target

/-! Sessions on one target: rewrites change the content in memory, saves write it back, and
others change the files in between. What the target remembers of its file is at every
point the text that it was loaded with or that its last write left there
(`onDisk_after`). So a save knows whether there is anything to write, though not
what others have done to the file (`session_keeps`). -/

namespace BindingRegions

inductive Action where
  | rewrite (r : Rewrite)
  | save
  /-- Others leave the files like this. -/
  | others (files : FileSystem)

inductive Answer where
  | rewritten (result : Except Error Outcome)
  | saved (result : Except Error Bool)
  /-- Others do not tell. -/
  | nothing

/-- The files, and a target that is held. -/
structure Session where
  files : FileSystem
  target : TargetFile

/-- An action in a session, what came of it, and the session before and after it. -/
structure Event where
  before : Session
  action : Action
  answer : Answer
  after : Session

namespace Session

def act (s : Session) : Action → Session × Answer
  | .rewrite r => ({ s with target := (s.target.attempt r).1 }, .rewritten (s.target.attempt r).2)
  | .save =>
    match s.target.save s.files with
    | .ok (target, wrote, files) => (⟨files, target⟩, .saved (.ok wrote))
    | .error e => (s, .saved (.error e))
  | .others files => ({ s with files }, .nothing)

def after : Session → List Action → Session
  | s, [] => s
  | s, a :: rest => after (s.act a).1 rest

def events : Session → List Action → List Event
  | _, [] => []
  | s, a :: rest => ⟨s, a, (s.act a).2, (s.act a).1⟩ :: events (s.act a).1 rest

end Session

def Event.written? (e : Event) : Option String :=
  match e.answer with
  | .saved (.ok true) => some e.before.target.content
  | _ => none

/-- The text that was last read from or written to the file: the one that was loaded, as long
as no save has written. -/
def synced (loaded : String) : List Event → String
  | [] => loaded
  | e :: rest => synced (e.written?.getD loaded) rest

namespace Session

variable {s : Session} {files after' : FileSystem} {path : FilePath} {target : TargetFile}
  {text : String} {fault : IoFault}

/-- A save that has something to write. It writes the content, and then the file has it and
nothing is left to write; or the write fails, and everything is as before. -/
inductive Writes (s : Session) : Prop
  | done {written : FileSystem} :
    s.files.write s.target.path s.target.content = .ok written →
    s.act .save = (⟨written, s.target.saved⟩, .saved (.ok true)) →
    written.read s.target.path = .ok s.target.content →
    (∀ later : FileSystem, act ⟨later, s.target.saved⟩ .save =
      (⟨later, s.target.saved⟩, .saved (.ok false))) → Writes s
  | failed {fault : IoFault} :
    s.files.write s.target.path s.target.content = .error fault →
    s.act .save = (s, .saved (.error (.targetFile s.target.path fault))) → Writes s

/-- What holds of a session on a path at any point, where the text is the one that was last
read or written. -/
structure Keeps (s : Session) (path : FilePath) (text : String) : Prop where
  path_eq : s.target.path = path
  onDisk_eq : s.target.onDisk = text
  /-- A rewrite is about the content alone, and changes it just when it says so. -/
  rewrite : ∀ r, (s.act (.rewrite r)).1.files = s.files ∧
    (s.act (.rewrite r)).1.target.onDisk = text ∧
    ((s.act (.rewrite r)).1.target.content ≠ s.target.content ↔
      (s.act (.rewrite r)).2 = .rewritten (.ok .replaced))
  /-- A save has nothing to write just when the content is that text, whatever the file holds. -/
  save : s.act .save = (s, .saved (.ok false)) ↔ s.target.content = text
  saved_false : (s.act .save).2 = .saved (.ok false) ↔ s.target.content = text
  /-- Otherwise it writes, now or, if that fails, with the files as they are later. -/
  writes : s.target.content ≠ text → ∀ files, Writes { s with files }

theorem act_save_of_clean (h : s.target.content = s.target.onDisk) :
    s.act .save = (s, .saved (.ok false)) := by
  rw [act, TargetFile.save_of_clean h]

/-- With something to write, a save does what the write does. -/
theorem act_save_of_ne (h : s.target.content ≠ s.target.onDisk) :
    (∃ written, s.files.write s.target.path s.target.content = .ok written ∧
      s.act .save = (⟨written, s.target.saved⟩, .saved (.ok true))) ∨
    ∃ fault, s.files.write s.target.path s.target.content = .error fault ∧
      s.act .save = (s, .saved (.error (.targetFile s.target.path fault))) := by
  rw [act]
  cases hw : s.files.write s.target.path s.target.content with
  | ok written =>
    rw [TargetFile.save_of_write h hw]
    exact .inl ⟨written, rfl, rfl⟩
  | error fault =>
    rw [TargetFile.save_of_write_error h hw]
    exact .inr ⟨fault, rfl, rfl⟩

theorem writes_of_ne (h : s.target.content ≠ s.target.onDisk) : s.Writes := by
  rcases act_save_of_ne h with ⟨written, hw, hact⟩ | ⟨fault, hw, hact⟩
  · exact .done hw hact (FileSystem.read_of_write hw) fun later => act_save_of_clean rfl
  · exact .failed hw hact

/-- No action changes the path, and what the target remembers changes with what is written. -/
theorem act_keeps (s : Session) (a : Action) :
    (s.act a).1.target.path = s.target.path ∧
      (s.act a).1.target.onDisk =
        (Event.written? ⟨s, a, (s.act a).2, (s.act a).1⟩).getD s.target.onDisk := by
  cases a with
  | rewrite r => exact s.target.attempt_keeps r
  | others files => exact ⟨rfl, rfl⟩
  | save =>
    by_cases hc : s.target.content = s.target.onDisk
    · rw [act_save_of_clean hc]
      exact ⟨rfl, rfl⟩
    · rcases act_save_of_ne hc with ⟨written, -, hact⟩ | ⟨fault, -, hact⟩ <;> rw [hact]
      · exact ⟨rfl, rfl⟩
      · exact ⟨rfl, rfl⟩

theorem path_after (s : Session) (actions : List Action) :
    (s.after actions).target.path = s.target.path := by
  induction actions generalizing s with
  | nil => rfl
  | cons a rest ih => rw [after, ih, (s.act_keeps a).1]

theorem onDisk_after (s : Session) (actions : List Action) :
    (s.after actions).target.onDisk = synced s.target.onDisk (s.events actions) := by
  induction actions generalizing s with
  | nil => rfl
  | cons a rest ih => rw [after, ih, events, synced, (s.act_keeps a).2]

theorem keeps_of_onDisk_eq (hpath : s.target.path = path) (h : s.target.onDisk = text) :
    s.Keeps path text := by
  have hsaved : (s.act .save).2 = .saved (.ok false) → s.target.content = text := by
    intro hfalse
    by_contra hc
    rw [← h] at hc
    cases writes_of_ne hc with
    | done hw hact =>
      rw [hact] at hfalse
      cases hfalse
    | failed hw hact =>
      rw [hact] at hfalse
      cases hfalse
  have hclean : s.target.content = text → s.act .save = (s, .saved (.ok false)) :=
    fun hc => act_save_of_clean (hc.trans h.symm)
  refine ⟨hpath, h, fun r => ⟨rfl, ?_, ?_⟩, ⟨fun hact => hsaved (by rw [hact]), hclean⟩,
    ⟨hsaved, fun hc => by rw [hclean hc]⟩, fun hc files => writes_of_ne (h ▸ hc)⟩
  · exact (s.target.attempt_keeps r).2.trans h
  · rw [act, s.target.content_attempt_ne_iff r, Answer.rewritten.injEq]

/-- At every point of a session on a loaded target, whatever was asked for and whatever others
did: the path is as it was, and the target remembers what was last read or written. A
rewrite touches neither the file nor that; a save returns without a write just when the
content is still that text, and otherwise it writes the content or fails and leaves all as
it was. -/
theorem session_keeps (h : TargetFile.load s.files path = .ok s.target) :
    ∃ loaded, s.files.read path = .ok loaded ∧ ∀ actions : List Action,
      (s.after actions).Keeps path (synced loaded (s.events actions)) := by
  obtain ⟨hpath, -, htracks⟩ := TargetFile.load_eq_ok h
  refine ⟨s.target.onDisk, hpath ▸ htracks, fun actions => ?_⟩
  exact keeps_of_onDisk_eq ((s.path_after actions).trans hpath) (s.onDisk_after actions)

/-! ### A session that is disturbed -/

/-- One file, with a region in it. -/
def draftFiles (text : String) (writable : Bool) : FileSystem :=
  (FileSystem.blank "w").put ["t", "w"] (some (.file (.text text) writable))

def draft : Session := ⟨draftFiles "A\na\nB\n" true, ⟨⟨"t"⟩, "A\na\nB\n", "A\na\nB\n"⟩⟩

theorem load_draft : TargetFile.load draft.files ⟨"t"⟩ = .ok draft.target := by decide +kernel

def draftRewrite (line : String) : Rewrite := ⟨⟨"A", "a"⟩, [line], .strict⟩

/-- A save fails while the file must not be written, the next one writes over what others
wrote meanwhile. -/
def disturbed : List Action :=
  [.rewrite (draftRewrite "x"), .others (draftFiles "other" false), .save,
    .others (draftFiles "other" true), .save, .rewrite (draftRewrite "y")]

theorem session_keeps_disturbed :
    draft.files.read ⟨"t"⟩ = .ok "A\na\nB\n" ∧
      synced "A\na\nB\n" (draft.events disturbed) = "A\nx\na\nB\n" ∧
      (draft.after disturbed).target.content = "A\ny\na\nB\n" ∧
      (draft.after disturbed).Keeps ⟨"t"⟩ "A\nx\na\nB\n" := by
  have hread : draft.files.read ⟨"t"⟩ = .ok "A\na\nB\n" := by decide +kernel
  have hsynced : synced "A\na\nB\n" (draft.events disturbed) = "A\nx\na\nB\n" := by
    decide +kernel
  obtain ⟨loaded, hloaded, hkeeps⟩ := session_keeps load_draft
  obtain rfl : "A\na\nB\n" = loaded := Except.ok.inj (hread.symm.trans hloaded)
  have hdisturbed := hkeeps disturbed
  rw [hsynced] at hdisturbed
  exact ⟨hread, hsynced, by decide +kernel, hdisturbed⟩

end Session

end BindingRegions
