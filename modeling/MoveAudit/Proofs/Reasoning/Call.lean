/-
This file says how a call of a model can end. A call promises a record, or one of three failures: the
model was late, it failed, or nothing that it answered could be used; and the entry of the call in
the journal says which. What an answer comes to is decided by the answer alone, so by induction on
the attempts that are left a call breaks the promise exactly if the first answer that is not merely
unfit is one that a step cannot be taken on at all. Its entry then goes on saying that it is running.
-/

import MoveAudit.Proofs.Act
import MoveAudit.Proofs.Journal.Book
import MoveAudit.Proofs.Reasoning.Reply
import MoveAudit.Proofs.Record.Halting
import MoveAudit.Reasoning.Reasoner

namespace MoveAudit.Reasoning

open Json Record Journal

variable {Result : Type}

/-! ### The text of an answer -/

/-- A block of text whose text is no text. -/
def IsOddBlock (block : Value) : Prop :=
  ∃ members text, block = .object members ∧
    Entries.get? members "type" = some (.string "text") ∧
    Entries.get? members "text" = some text ∧ text.text? = none

theorem blockText_fails_iff {block : Value} :
    (∃ fault, Reply.blockText block = .error fault) ↔ IsOddBlock block := by
  constructor
  · rintro ⟨fault, fails⟩
    unfold Reply.blockText at fails
    split at fails
    · cases fails
    · rename_i members
      split at fails
      · rename_i isText
        obtain ⟨kind, found, named⟩ := Option.bind_eq_some_iff.mp (eq_of_beq isText)
        obtain rfl : kind = .string "text" := by
          cases kind <;> cases named
          rfl
        split at fails
        · cases fails
        · cases fails
        · rename_i text isOdd held
          refine ⟨members, text, rfl, found, held, ?_⟩
          cases text with
          | string words => exact absurd rfl (isOdd words)
          | _ => rfl
      · cases fails
    · cases fails
  · rintro ⟨members, text, rfl, found, held, isOdd⟩
    refine ⟨.wrongKind, ?_⟩
    unfold Reply.blockText
    simp only [found, held]
    cases text with
    | string words => cases isOdd
    | _ => rfl

theorem text_fails_iff {value : Value} :
    (∃ fault, Reply.text value = .error fault) ↔
      ∃ blocks, value = .array blocks ∧ ∃ block ∈ blocks, IsOddBlock block := by
  cases value with
  | array blocks =>
    have joins : (∃ fault, Reply.text (.array blocks) = .error fault) ↔
        ∃ fault, blocks.mapM Reply.blockText = .error fault := by
      unfold Reply.text
      cases came : blocks.mapM Reply.blockText <;>
        simp [came, bind, Except.bind, pure, Except.pure]
    simp [joins, mapM_fails_iff, blockText_fails_iff]
  | _ => simp [Reply.text]

/-- An answer comes as a text. -/
def ComesAs (answer : Answer) (text : String) : Prop :=
  ∃ value, answer = .content value ∧ Reply.isTooLong value = false ∧ Reply.text value = .ok text

/-! ### What one answer comes to -/

/-- The search for an object in a text comes upon a bracket that there is no room for. -/
def IsTooDeep (room : Nat) (text : String) : Prop :=
  ∃ bracket, Reply.object room text = .error (.tooDeep bracket)

/-- An answer comes as a text in which no record of a schema is found. -/
def IsUnfit (schema : Schema Result) (room : Nat) (answer : Answer) : Prop :=
  ∃ text, ComesAs answer text ∧ ¬ IsTooDeep room text ∧
    ∀ members, Reply.object room text = .ok members →
      ∃ faults, schema.check (.object members) = .faults faults

/-- A step cannot be taken at all on an answer: it has a block of text whose text is no text, it is
no text itself and has a whole number with more digits than may be written out, it has more brackets
in each other than there is room for, or it is a score report whose score is a whole number beyond
binary64. -/
inductive Breaks (title : String) (room : Nat) : Answer → Prop
  | block {blocks : List Value} {block : Value} (among : block ∈ blocks)
    (isOdd : IsOddBlock block) : Breaks title room (.content (.array blocks))
  | digits {value : Value} (isTooLong : Reply.isTooLong value = true) :
    Breaks title room (.content value)
  | deep {answer : Answer} {text : String} (comes : ComesAs answer text)
    (isTooDeep : IsTooDeep room text) : Breaks title room answer
  | score {answer : Answer} {text : String} {members : Members} {whole : Int}
    (isScore : title = Reasoner.scoreSchema.title) (comes : ComesAs answer text)
    (holds : Reply.object room text = .ok members)
    (found : Entries.get? members "risk_score" = some (.int whole))
    (isBeyond : (Double.ofInt whole).isFinite = false) : Breaks title room answer

/-- The first answer that is not unfit, of those that a number of further attempts reach, breaks a
call. -/
inductive Strays (schema : Schema Result) (room : Nat) : (left : Nat) → List Answer → Prop
  | now {left : Nat} {answer : Answer} {later : List Answer}
    (breaks : Breaks schema.title room answer) : Strays schema room left (answer :: later)
  | later {left : Nat} {answer : Answer} {later : List Answer}
    (unfit : IsUnfit schema room answer) (strays : Strays schema room left later) :
    Strays schema room (left + 1) (answer :: later)

/-- What asking comes to, by the answer. -/
def heard (settings : Settings) (stage : String) : Answer → Except CallFailure String
  | .late => .error (.late stage settings.timeout)
  | .failed words => .error (.failed stage words)
  | .content value =>
    if Reply.isTooLong value then .error (.halt .unspellable)
    else match Reply.text value with
      | .ok text => .ok text
      | .error _ => .error (.halt .wrongKind)

section Answers

variable (settings : Settings) (stage : String) {answer : Answer} {room : Nat}

theorem heard_eq_ok_iff {text : String} :
    heard settings stage answer = .ok text ↔ ComesAs answer text := by
  unfold ComesAs
  cases answer with
  | late => simp [heard]
  | failed words => simp [heard]
  | content value =>
    unfold heard
    cases tooLong : Reply.isTooLong value with
    | true => simp [tooLong]
    | false => cases read : Reply.text value <;> simp [tooLong, read]

theorem heard_halts_iff :
    (∃ reason, heard settings stage answer = .error (.halt reason)) ↔
      ∃ value, answer = .content value ∧
        (Reply.isTooLong value = true ∨ ∃ fault, Reply.text value = .error fault) := by
  cases answer with
  | late => simp [heard]
  | failed words => simp [heard]
  | content value =>
    unfold heard
    cases tooLong : Reply.isTooLong value with
    | true => simp [tooLong]
    | false => cases read : Reply.text value <;> simp [tooLong, read]

theorem reading_halts_iff {schema : Schema Result} {text : String} :
    (∃ reason, reading schema room text = .halt reason) ↔
      IsTooDeep room text ∨ ∃ members, Reply.object room text = .ok members ∧
        ∃ reason, schema.check (.object members) = .halt reason := by
  unfold reading IsTooDeep
  cases Reply.object room text with
  | error fault => cases fault <;> simp
  | ok members => cases came : schema.check (.object members) <;> simp [came]

theorem reading_unfit_iff {schema : Schema Result} {text : String} :
    (∃ complaint, reading schema room text = .unfit complaint) ↔
      ¬ IsTooDeep room text ∧ ∀ members, Reply.object room text = .ok members →
        ∃ faults, schema.check (.object members) = .faults faults := by
  unfold reading IsTooDeep
  cases Reply.object room text with
  | error fault => cases fault <;> simp
  | ok members => cases came : schema.check (.object members) <;> simp [came]

theorem isUnfit_iff {schema : Schema Result} :
    IsUnfit schema room answer ↔ ∃ text, heard settings stage answer = .ok text ∧
      ∃ complaint, reading schema room text = .unfit complaint := by
  unfold IsUnfit
  simp only [heard_eq_ok_iff, reading_unfit_iff]

end Answers

/-! ### The schemas of the stages -/

/-- The schemas that the stages ask for. -/
inductive IsStage : {Result : Type} → Schema Result → Prop
  | triage : IsStage Reasoner.triageSchema
  | technical : IsStage Reasoner.technicalSchema
  | score : IsStage Reasoner.scoreSchema
  | draft : IsStage Reasoner.draftSchema
  | critique : IsStage Reasoner.critiqueSchema

/-- Of the schemas of the stages that of scores alone has a check that stops. -/
theorem IsStage.check_halts_iff {schema : Schema Result} (isStage : IsStage schema)
    {members : Members} :
    (∃ reason, schema.check (.object members) = .halt reason) ↔
      schema.title = Reasoner.scoreSchema.title ∧
        ∃ whole, Entries.get? members "risk_score" = some (.int whole) ∧
          (Double.ofInt whole).isFinite = false := by
  have other {Record : Type} {schema : Schema Record} (finishes : Finishes schema.check)
      (differs : schema.title ≠ Reasoner.scoreSchema.title) :
      (∃ reason, schema.check (.object members) = .halt reason) ↔
        schema.title = Reasoner.scoreSchema.title ∧
          ∃ whole, Entries.get? members "risk_score" = some (.int whole) ∧
            (Double.ofInt whole).isFinite = false :=
    iff_of_false (fun ⟨reason, stops⟩ => finishes _ reason stops) fun same => differs same.1
  cases isStage with
  | triage => exact other Triage.finishes_check (by decide)
  | technical => exact other TechnicalAnalysis.finishes_check (by decide)
  | draft => exact other Draft.finishes_check (by decide)
  | critique => exact other Critique.finishes_check (by decide)
  | score =>
    show (∃ reason, ScoreReport.check (.object members) = .halt reason) ↔ _
    simp [ScoreReport.check_eq_halt_iff]

theorem IsStage.breaks_iff {schema : Schema Result} (isStage : IsStage schema)
    (settings : Settings) (stage : String) {answer : Answer} {room : Nat} :
    Breaks schema.title room answer ↔
      (∃ reason, heard settings stage answer = .error (.halt reason)) ∨
        ∃ text, heard settings stage answer = .ok text ∧
          ∃ reason, reading schema room text = .halt reason := by
  simp only [heard_halts_iff, heard_eq_ok_iff, reading_halts_iff, isStage.check_halts_iff,
    text_fails_iff]
  constructor
  · rintro (⟨among, isOdd⟩ | ⟨tooLong⟩ | ⟨comes, tooDeep⟩ |
      ⟨isScore, comes, holds, found, isBeyond⟩)
    · exact .inl ⟨_, rfl, .inr ⟨_, rfl, _, among, isOdd⟩⟩
    · exact .inl ⟨_, rfl, .inl tooLong⟩
    · exact .inr ⟨_, comes, .inl tooDeep⟩
    · exact .inr ⟨_, comes, .inr ⟨_, holds, isScore, _, found, isBeyond⟩⟩
  · rintro (⟨_, rfl, tooLong | ⟨blocks, rfl, block, among, isOdd⟩⟩ |
      ⟨_, comes, tooDeep | ⟨members, holds, isScore, whole, found, isBeyond⟩⟩)
    · exact .digits tooLong
    · exact .block among isOdd
    · exact .deep comes tooDeep
    · exact .score isScore comes holds found isBeyond

theorem IsStage.not_breaks_of_isUnfit {schema : Schema Result} (isStage : IsStage schema)
    {answer : Answer} {room : Nat} (unfit : IsUnfit schema room answer) :
    ¬ Breaks schema.title room answer := by
  obtain ⟨text, comes, complaint, reads⟩ := (isUnfit_iff {} "").mp unfit
  rw [isStage.breaks_iff {} "", comes]
  rintro (⟨_, ⟨⟩⟩ | ⟨_, ⟨⟩, _, stops⟩)
  rw [reads] at stops
  cases stops

/-! ### One attempt -/

section Attempts

variable {settings : Settings} {schema : Schema Result} {stage : String} {entry : Option Entry}
  {left attempt : Nat} {messages : List Message} {scene : Scene Desk}

theorem run_ask : (ask settings stage messages).run scene =
    (heard settings stage (scene.world.ask messages).1,
      { scene with world := (scene.world.ask messages).2 }) := by
  show (Act.take (Desk.ask messages) >>= _).run scene = _
  have took : (Act.take (Desk.ask messages) : Act Desk CallFailure Answer).run scene =
      (.ok (scene.world.ask messages).1, { scene with world := (scene.world.ask messages).2 }) := rfl
  rw [Act.run_bind_ok _ took]
  cases (scene.world.ask messages).1 with
  | late => rfl
  | failed words => rfl
  | content value =>
    unfold heard
    dsimp only
    cases Reply.isTooLong value with
    | true => rfl
    | false => cases Reply.text value <;> rfl

/-- The scene after the model was asked. -/
def asked (messages : List Message) (scene : Scene Desk) : Scene Desk :=
  { scene with world := (scene.world.ask messages).2 }

theorem run_attemptsFrom_error {reason : CallFailure}
    (came : heard settings stage (scene.world.ask messages).1 = .error reason) :
    (attemptsFrom settings schema stage entry left attempt messages).run scene =
      (.error reason, if reason.isRecorded
        then { asked messages scene with
          world := (asked messages scene).world.finish entry
            (endOfFailure (.given (.string (reason.message fun title _ => title))) attempt) }
        else asked messages scene) := by
  unfold attemptsFrom
  rw [Act.run_bind_ok _ (Act.run_settle run_ask), came]
  cases reason <;> rfl

theorem run_attemptsFrom_halt {raw : String} {reason : Halt}
    (came : heard settings stage (scene.world.ask messages).1 = .ok raw)
    (reads : reading schema settings.room raw = .halt reason) :
    (attemptsFrom settings schema stage entry left attempt messages).run scene =
      (.error (.halt reason), asked messages scene) := by
  unfold attemptsFrom
  rw [Act.run_bind_ok _ (Act.run_settle run_ask), came]
  dsimp only
  rw [reads]
  rfl

theorem run_attemptsFrom_fits {raw : String} {result : Result}
    (came : heard settings stage (scene.world.ask messages).1 = .ok raw)
    (reads : reading schema settings.room raw = .fits result) :
    ∃ notices, (attemptsFrom settings schema stage entry left attempt messages).run scene =
      (.ok result, ⟨(asked messages scene).world.finish entry
        (endOfSuccess (schema.toJson result) attempt), notices⟩) := by
  unfold attemptsFrom
  rw [Act.run_bind_ok _ (Act.run_settle run_ask), came]
  dsimp only
  rw [reads]
  exact ⟨_, rfl⟩

theorem run_attemptsFrom_last {raw : String} {complaint : Complaint}
    (came : heard settings stage (scene.world.ask messages).1 = .ok raw)
    (reads : reading schema settings.room raw = .unfit complaint) :
    ∃ notices, (attemptsFrom settings schema stage entry 0 attempt messages).run scene =
      (.error (.misfit stage schema.title complaint raw),
        ⟨(asked messages scene).world.finish entry (endOfFailure complaint attempt), notices⟩) := by
  unfold attemptsFrom
  rw [Act.run_bind_ok _ (Act.run_settle run_ask), came]
  dsimp only
  rw [reads]
  exact ⟨_, rfl⟩

theorem run_attemptsFrom_again {raw : String} {complaint : Complaint}
    (came : heard settings stage (scene.world.ask messages).1 = .ok raw)
    (reads : reading schema settings.room raw = .unfit complaint) :
    ∃ notices, (attemptsFrom settings schema stage entry (left + 1) attempt messages).run scene =
      (attemptsFrom settings schema stage entry left (attempt + 1)
        (messages ++ [.reply raw, .correction complaint])).run
          ⟨(asked messages scene).world, notices⟩ := by
  refine ⟨scene.notices ++ [malformedNotice stage (left + 1) attempt complaint], ?_⟩
  conv =>
    lhs
    unfold attemptsFrom
  rw [Act.run_bind_ok _ (Act.run_settle run_ask), came]
  dsimp only
  rw [reads]
  rfl

/-! ### All attempts -/

/-- The journal of a call after an end is written into its entry. -/
def written (entry : Option Entry) (changes : List Change) (journal : Journal) : Journal :=
  match entry with
  | none => journal
  | some entry => (journal.update entry.id changes).2

/-- What a call comes to, and what its journal looks like then. -/
inductive Closes (schema : Schema Result) (entry : Option Entry) (journal : Journal) :
    Except CallFailure Result → Journal → Prop
  | record {result : Result} (document : Value) (attempt : Nat)
    (passes : schema.check document = .ok result) :
    Closes schema entry journal (.ok result)
      (written entry (endOfSuccess (schema.toJson result) attempt) journal)
  | failure {reason : CallFailure} (error : Complaint) (attempt : Nat)
    (isRecorded : reason.isRecorded = true) :
    Closes schema entry journal (.error reason)
      (written entry (endOfFailure error attempt) journal)
  | halt (reason : Halt) : Closes schema entry journal (.error (.halt reason)) journal

theorem Closes.exists_document {journal left : Journal} {result : Result}
    (closes : Closes schema entry journal (.ok result) left) :
    ∃ document, schema.check document = .ok result := by
  cases closes with
  | record document attempt passes => exact ⟨document, passes⟩

theorem journal_finish (changes : List Change) (desk : Desk) :
    (desk.finish entry changes).journal = written entry changes desk.journal := by
  cases entry <;> rfl

theorem journal_asked : (asked messages scene).world.journal = scene.world.journal := by
  unfold asked Desk.ask
  cases scene.world.answers <;> rfl

theorem exists_document_of_fits {room : Nat} {raw : String} {result : Result}
    (reads : reading schema room raw = .fits result) :
    ∃ document, schema.check document = .ok result := by
  unfold reading at reads
  split at reads
  · cases reads
  · cases reads
  · rename_i members _
    refine ⟨.object members, ?_⟩
    split at reads
    · rename_i passes
      cases reads
      exact passes
    · cases reads
    · cases reads

/-- An attempt on an answer that is not unfit ends the call. -/
theorem attempt_ends (isStage : IsStage schema)
    (fit : ¬ IsUnfit schema settings.room (scene.world.ask messages).1) :
    ∃ outcome last, (attemptsFrom settings schema stage entry left attempt messages).run scene =
        (outcome, last) ∧
      Closes schema entry scene.world.journal outcome last.world.journal ∧
      ((∃ reason, outcome = .error (.halt reason)) ↔
        Breaks schema.title settings.room (scene.world.ask messages).1) := by
  rw [isStage.breaks_iff settings stage]
  cases came : heard settings stage (scene.world.ask messages).1 with
  | error reason =>
    refine ⟨_, _, run_attemptsFrom_error came, ?_, by simp⟩
    split
    · rename_i isRecorded
      rw [journal_finish, journal_asked]
      exact .failure _ attempt isRecorded
    · rename_i isHidden
      rw [journal_asked]
      cases reason with
      | halt reason => exact .halt reason
      | _ => exact absurd rfl isHidden
  | ok raw =>
    cases reads : reading schema settings.room raw with
    | unfit complaint =>
      exact absurd ((isUnfit_iff settings stage).mpr ⟨raw, came, complaint, reads⟩) fit
    | halt reason =>
      refine ⟨_, _, run_attemptsFrom_halt came reads, ?_, by simp [reads]⟩
      rw [journal_asked]
      exact .halt reason
    | fits result =>
      obtain ⟨notices, ran⟩ := run_attemptsFrom_fits came reads
      obtain ⟨document, passes⟩ := exists_document_of_fits reads
      refine ⟨_, _, ran, ?_, by simp [reads]⟩
      dsimp only
      rw [journal_finish, journal_asked]
      exact .record document attempt passes

theorem strays_iff (messages : List Message) {room : Nat} :
    Strays schema room left scene.world.answers ↔
      Breaks schema.title room (scene.world.ask messages).1 ∨
        IsUnfit schema room (scene.world.ask messages).1 ∧
          ∃ fewer, left = fewer + 1 ∧
            Strays schema room fewer (asked messages scene).world.answers := by
  unfold asked Desk.ask
  cases scene.world.answers with
  | nil =>
    have noText (text : String) : ¬ ComesAs (.failed "no scripted reply") text := by
      rintro ⟨_, ⟨⟩, _⟩
    refine iff_of_false nofun ?_
    rintro (breaks | ⟨⟨text, comes, _⟩, _⟩)
    · cases breaks with
      | deep comes => exact noText _ comes
      | score _ comes => exact noText _ comes
    · exact noText text comes
  | cons answer later =>
    constructor
    · rintro (breaks | ⟨unfit, strays⟩)
      · exact .inl breaks
      · exact .inr ⟨unfit, _, rfl, strays⟩
    · rintro (breaks | ⟨unfit, fewer, rfl, strays⟩)
      · exact .now breaks
      · exact .later unfit strays

/-- Attempts end as they may, and stop exactly if the answers break the call. -/
theorem attemptsFrom_ends (isStage : IsStage schema) (settings : Settings) (stage : String)
    (entry : Option Entry) (left attempt : Nat)
    (messages : List Message) (scene : Scene Desk) :
    ∃ outcome last, (attemptsFrom settings schema stage entry left attempt messages).run scene =
        (outcome, last) ∧
      Closes schema entry scene.world.journal outcome last.world.journal ∧
      ((∃ reason, outcome = .error (.halt reason)) ↔
        Strays schema settings.room left scene.world.answers) := by
  induction left generalizing attempt messages scene with
  | zero =>
    rw [strays_iff messages]
    by_cases unfit : IsUnfit schema settings.room (scene.world.ask messages).1
    · obtain ⟨raw, came, complaint, reads⟩ := (isUnfit_iff settings stage).mp unfit
      obtain ⟨notices, ran⟩ := run_attemptsFrom_last came reads
      refine ⟨_, _, ran, ?_, ?_⟩
      · dsimp only
        rw [journal_finish, journal_asked]
        exact .failure _ attempt rfl
      · simp [isStage.not_breaks_of_isUnfit unfit]
    · simp only [unfit, false_and, or_false]
      exact attempt_ends isStage unfit
  | succ left inductionHypothesis =>
    rw [strays_iff messages]
    by_cases unfit : IsUnfit schema settings.room (scene.world.ask messages).1
    · obtain ⟨raw, came, complaint, reads⟩ := (isUnfit_iff settings stage).mp unfit
      obtain ⟨notices, ran⟩ := run_attemptsFrom_again came reads
      obtain ⟨outcome, last, goesOn, closes, halts_iff⟩ := inductionHypothesis (attempt + 1)
        (messages ++ [.reply raw, .correction complaint]) ⟨(asked messages scene).world, notices⟩
      refine ⟨outcome, last, ran.trans goesOn, ?_, ?_⟩
      · rw [← journal_asked]
        exact closes
      · rw [halts_iff]
        simp [isStage.not_breaks_of_isUnfit unfit, unfit]
    · simp only [unfit, false_and, or_false]
      exact attempt_ends isStage unfit

end Attempts

/-! ### Calls -/

section Calls

variable {settings : Settings} {schema : Schema Result} {request : Request} {scene last : Scene Desk}

/-- What a call begins with: its entry, if there is to be one, and the desk after it was made. -/
def opened (settings : Settings) (schema : Schema Result) (request : Request) (desk : Desk) :
    Option Entry × Desk :=
  if settings.isJournaled
  then desk.enter request.stage settings.model request.prompt request.session
    (.object (Entries.put request.metadata "schema" (.string schema.title)))
  else (none, desk)

theorem run_call : (call settings schema request).run scene =
    (attemptsFrom settings schema request.stage (opened settings schema request scene.world).1
      settings.retries.toNat 0 request.messages).run
        { scene with world := (opened settings schema request scene.world).2 } := by
  unfold call opened
  split
  · rfl
  · rfl

theorem answers_opened (desk : Desk) :
    (opened settings schema request desk).2.answers = desk.answers := by
  unfold opened Desk.enter Desk.issue
  split
  · split
    · rfl
    · dsimp only
      split <;> rfl
  · rfl

/-- A call that is recorded begins with an entry under the next identifier, which is running. -/
theorem exists_entry_of_recorded {desk : Desk} (isJournaled : settings.isJournaled = true)
    (isKept : desk.journal.isKept = true) :
    ∃ entry, (opened settings schema request desk).1 = some entry ∧
      (opened settings schema request desk).2.journal = desk.journal.save entry ∧
      entry.id = desk.issue.1 ∧ entry.status = .string "running" := by
  unfold opened Desk.enter Desk.issue
  rw [if_pos isJournaled, isKept]
  cases request.session.isEmpty with
  | true => exact ⟨_, rfl, rfl, rfl, rfl⟩
  | false => exact ⟨_, rfl, rfl, rfl, rfl⟩

/-- After a call the journal says of it what status it has, if the call was recorded at all, and
keeps its entry if there was room. -/
def Tells (settings : Settings) (scene last : Scene Desk) (status : String) : Prop :=
  settings.isJournaled = true → scene.world.journal.isKept = true →
    last.world.journal.Says scene.world.issue.1 status ∧
      (scene.world.journal.HasRoom →
        last.world.journal.Knows scene.world.issue.1 ∧ last.world.journal.HasRoom)

/-- The status of a call by what it came to. -/
def statusOf : Except CallFailure Result → String
  | .ok _ => "completed"
  | .error (.halt _) => "running"
  | .error _ => "failed"

theorem tells_of_closes {outcome : Except CallFailure Result}
    (closes : Closes schema (opened settings schema request scene.world).1
      (opened settings schema request scene.world).2.journal outcome last.world.journal) :
    Tells settings scene last (statusOf outcome) := by
  intro isJournaled isKept
  obtain ⟨entry, made, saved, named, runs⟩ :=
    @exists_entry_of_recorded _ settings schema request _ isJournaled isKept
  rw [made, saved] at closes
  rw [← named]
  generalize last.world.journal = journal at closes ⊢
  cases closes with
  | record document attempt passes =>
    exact ⟨says_update_ending _ _ _ _ _ _ (.bool true), fun room =>
      ⟨(room.knows_save entry).update _ _, (room.save entry).update _ _⟩⟩
  | failure error attempt isRecorded =>
    refine ⟨?_, fun room => ⟨(room.knows_save entry).update _ _, (room.save entry).update _ _⟩⟩
    rename_i reason
    have status : statusOf (.error reason : Except CallFailure Result) = "failed" := by
      cases reason with
      | halt _ => cases isRecorded
      | _ => rfl
    rw [status]
    exact says_update_ending _ _ _ _ _ _ (.bool false)
  | halt reason =>
    exact ⟨says_save runs _, fun room => ⟨room.knows_save entry, room.save entry⟩⟩

/-- A call comes to something that the journal tells, and stops exactly if the answers break it. -/
theorem call_ends (isStage : IsStage schema) (settings : Settings) (request : Request)
    (scene : Scene Desk) :
    ∃ outcome last, (call settings schema request).run scene = (outcome, last) ∧
      (∀ result, outcome = .ok result → ∃ document, schema.check document = .ok result) ∧
      Tells settings scene last (statusOf outcome) ∧
      ((∃ reason, outcome = .error (.halt reason)) ↔
        Strays schema settings.room settings.retries.toNat scene.world.answers) := by
  obtain ⟨outcome, last, ran, closes, halts_iff⟩ := attemptsFrom_ends isStage settings
    request.stage (opened settings schema request scene.world).1 settings.retries.toNat 0
    request.messages { scene with world := (opened settings schema request scene.world).2 }
  refine ⟨outcome, last, run_call.trans ran, ?_, tells_of_closes closes, ?_⟩
  · rintro result rfl
    exact closes.exists_document
  · rw [halts_iff, answers_opened]

/-- A call ends as it promises: with a record of the schema or with one of the three failures, and
the journal says which. -/
def EndsAsPromised (settings : Settings) (schema : Schema Result) (request : Request)
    (scene : Scene Desk) : Prop :=
  match (call settings schema request).run scene with
  | (.ok result, last) =>
    (∃ document, schema.check document = .ok result) ∧ Tells settings scene last "completed"
  | (.error (.halt _), _) => False
  | (.error _, last) => Tells settings scene last "failed"

/-- A call breaks off without any of the failures that it promises, and the journal goes on saying
that it is running. -/
def BreaksOff (settings : Settings) (schema : Schema Result) (request : Request)
    (scene : Scene Desk) : Prop :=
  ∃ reason last, (call settings schema request).run scene = (.error (.halt reason), last) ∧
    Tells settings scene last "running"

/-- Whatever a stage asks for and whatever the model does, a call ends as it promises, unless the
first answer that is not merely unfit is one that a step cannot be taken on; then it breaks off. -/
theorem ends_as_promised_iff (isStage : IsStage schema) (settings : Settings) (request : Request)
    (scene : Scene Desk) :
    (EndsAsPromised settings schema request scene ↔
      ¬ Strays schema settings.room settings.retries.toNat scene.world.answers) ∧
    (Strays schema settings.room settings.retries.toNat scene.world.answers →
      BreaksOff settings schema request scene) := by
  obtain ⟨outcome, last, ran, isRecord, tells, halts_iff⟩ := call_ends isStage settings request scene
  constructor
  · unfold EndsAsPromised
    rw [ran, ← halts_iff]
    cases outcome with
    | ok result => exact iff_of_true ⟨isRecord result rfl, tells⟩ (by simp)
    | error reason =>
      cases reason with
      | halt reason => exact iff_of_false id (by simp)
      | _ => exact iff_of_true tells (by simp)
  · intro strays
    obtain ⟨reason, rfl⟩ := halts_iff.mpr strays
    exact ⟨reason, last, ran, tells⟩

end Calls

/-! ### A score beyond binary64 -/

section Scoring

variable {schema : Schema Result} {room left : Nat} {answer : Answer} {later : List Answer}
  {text : String}

theorem IsStage.strays_of_halts (isStage : IsStage schema) (comes : ComesAs answer text)
    {reason : Halt} (reads : reading schema room text = .halt reason) :
    Strays schema room left (answer :: later) :=
  .now ((isStage.breaks_iff {} "").mpr (.inr ⟨text, (heard_eq_ok_iff _ _).mpr comes, reason, reads⟩))

theorem IsStage.not_strays_of_fits (isStage : IsStage schema) (comes : ComesAs answer text)
    {result : Result} (reads : reading schema room text = .fits result) :
    ¬ Strays schema room left (answer :: later) := by
  have came := (heard_eq_ok_iff {} "").mpr comes
  rintro (breaks | ⟨unfit, _⟩)
  · rw [isStage.breaks_iff {} "", came] at breaks
    obtain ⟨_, ⟨⟩⟩ | ⟨_, ⟨⟩, _, stops⟩ := breaks
    rw [reads] at stops
    cases stops
  · obtain ⟨_, same, _, fails⟩ := (isUnfit_iff {} "").mp unfit
    rw [came] at same
    cases same
    rw [reads] at fails
    cases fails

end Scoring

/-- A scene in which the model answers with these words. -/
def sceneOf (words : List String) : Scene Desk :=
  ⟨{ answers := words.map fun text => .content (.string text) }, []⟩

/-- The question for a score. -/
def scoringRequest : Request :=
  { stage := "scoring", prompt := "prompt" }

theorem comesAs_string (words : String) : ComesAs (.content (.string words)) words :=
  ⟨.string words, rfl, rfl, rfl⟩

theorem breaks_promise_of_halts {words : String} {reason : Halt}
    (reads : reading Reasoner.scoreSchema usualRoom words = .halt reason) (others : List String) :
    ¬ EndsAsPromised {} Reasoner.scoreSchema scoringRequest (sceneOf (words :: others)) := by
  intro kept
  obtain ⟨outcome, last, ran, _, _, halts_iff⟩ :=
    call_ends .score {} scoringRequest (sceneOf (words :: others))
  obtain ⟨reason, rfl⟩ := halts_iff.mpr (IsStage.score.strays_of_halts (comesAs_string words) reads)
  unfold EndsAsPromised at kept
  rw [ran] at kept
  exact kept

/-- What a model writes that gives a score of a one with so many zeros. -/
def scoreWords (zeros : Nat) : String :=
  "\x7b\"risk_score\": 1" ++ String.ofList (List.replicate zeros '0') ++ "\x7d"

theorem toDigits_ten_pow (zeros : Nat) :
    Nat.toDigits 10 (Nat.pow 10 zeros) = '1' :: List.replicate zeros '0' := by
  induction zeros with
  | zero => rfl
  | succ zeros inductionHypothesis =>
    have isGreat : ¬ Nat.pow 10 zeros * 10 < 10 := by
      have : 0 < Nat.pow 10 zeros := Nat.pow_pos (by decide)
      omega
    rw [Nat.pow_eq, Nat.pow_succ, ← Nat.pow_eq, Nat.toDigits_eq_if (by decide), if_neg isGreat,
      Nat.mul_div_cancel _ (by decide), Nat.mul_mod_left, inductionHypothesis, List.replicate_succ']
    rfl

/-- The words are those in which such a score is written. -/
theorem scoreWords_eq (zeros : Nat) :
    scoreWords zeros =
      (Value.object [("risk_score", .int (Nat.pow 10 zeros : Nat))]).write .spacedAscii := by
  rw [← String.toList_inj, Value.toList_write]
  have digits : (Numeral.intText ((Nat.pow 10 zeros : Nat) : Int)).toList =
      '1' :: List.replicate zeros '0' := by
    rw [toList_intText, decide_eq_false (Int.not_lt.mpr (Int.natCast_nonneg _))]
    show Nat.toDigits 10 _ ++ ([] ++ []) = _
    rw [List.append_nil, List.append_nil, Int.natAbs_natCast]
    exact toDigits_ten_pow zeros
  show ("\x7b\"risk_score\": 1" ++ String.ofList (List.replicate zeros '0') ++ "\x7d").toList = _
  rw [String.toList_append, String.toList_append,
    @String.toList_ofList (List.replicate zeros '0')]
  show _ = '\x7b' :: (inQuotes "risk_score" ++
    (':' :: ' ' :: ((Numeral.intText ((Nat.pow 10 zeros : Nat) : Int)).toList ++ ['\x7d'])))
  rw [digits]
  rfl

/-- The score that the words give is found in them. -/
theorem object_scoreWords {zeros : Nat} (few : zeros < Numeral.digitLimit) :
    Reply.object usualRoom (scoreWords zeros) =
      .ok [("risk_score", .int (Nat.pow 10 zeros : Nat))] := by
  have isProper : (Value.object [("risk_score", .int (Nat.pow 10 zeros : Nat))]).IsProper := by
    refine ⟨List.pairwise_singleton _ _, ?_, trivial⟩
    unfold Value.IsProper
    generalize Numeral.digitLimit = limit at few ⊢
    exact Nat.pow_lt_pow_right (by decide) few
  have unmarked : ∀ text ∈ (Value.object [("risk_score", .int (Nat.pow 10 zeros : Nat))]).allTexts,
      ¬ Reply.jsonFence <:+: text.toList := by
    intro text isText
    rw [List.mem_singleton.mp isText]
    decide
  rw [scoreWords_eq]
  have fits : (Value.object [("risk_score", .int (Nat.pow 10 zeros : Nat))]).depth ≤ usualRoom :=
    show 1 ≤ 1000 by decide
  exact (Reply.object_of_isWrapped isProper fits .alone).mpr
    (Reply.not_isMisled_of_unmarked isProper fits .alone unmarked)

section Reading

variable {schema : Schema Result} {room : Nat} {text : String} {members : Members}
  (found : Reply.object room text = .ok members)

include found

theorem reading_of_ok {result : Result} (isOk : schema.check (.object members) = .ok result) :
    reading schema room text = .fits result := by
  unfold reading
  rw [found]
  dsimp only
  rw [isOk]

theorem reading_of_halt {reason : Halt} (halts : schema.check (.object members) = .halt reason) :
    reading schema room text = .halt reason := by
  unfold reading
  rw [found]
  dsimp only
  rw [halts]

end Reading

theorem check_scoreSchema : Reasoner.scoreSchema.check = ScoreReport.check := rfl

/-- A score that reaches a power of two beyond binary64 stops the check. -/
theorem reading_of_reach {zeros exponent : Nat} (few : zeros < Numeral.digitLimit)
    (reaches : 2 ^ exponent ≤ Nat.pow 10 zeros)
    (isBeyond : Double.overflow ≤ 2 ^ exponent * Double.one) :
    reading Reasoner.scoreSchema usualRoom (scoreWords zeros) = .halt .overflow := by
  have halts : ScoreReport.check (.object [("risk_score", .int (Nat.pow 10 zeros : Nat))]) =
      .halt .overflow :=
    ScoreReport.check_eq_halt_iff.mpr ⟨rfl, _, rfl, Double.isFinite_ofInt_of_reach reaches isBeyond⟩
  exact reading_of_halt (object_scoreWords few) (check_scoreSchema ▸ halts)

theorem reading_great :
    reading Reasoner.scoreSchema usualRoom (scoreWords 309) = .halt .overflow := by
  obtain ⟨zeros, exponent, isCount, reaches, isBeyond⟩ := Double.exists_pow_beyond
  have few : zeros < Numeral.digitLimit := by
    rw [isCount]
    decide
  rw [← isCount]
  exact reading_of_reach few reaches isBeyond

theorem exists_reading_small :
    ∃ report, reading Reasoner.scoreSchema usualRoom (scoreWords 1) = .fits report := by
  have isFit : (ScoreReport.check
      (.object [("risk_score", .int (Nat.pow 10 1 : Nat))])).isFit = true := by
    decide +kernel
  obtain ⟨report, fits⟩ := Checked.exists_of_isFit isFit
  exact ⟨report, reading_of_ok (object_scoreWords (by decide)) (check_scoreSchema ▸ fits)⟩

/-- A call that is given a score of ten comes to a record. -/
theorem small_score_ends_as_promised : IsStage Reasoner.scoreSchema ∧
    EndsAsPromised {} Reasoner.scoreSchema scoringRequest (sceneOf [scoreWords 1]) := by
  obtain ⟨report, reads⟩ := exists_reading_small
  exact ⟨.score, (ends_as_promised_iff .score {} scoringRequest _).1.mpr
    (IsStage.score.not_strays_of_fits (comesAs_string _) reads)⟩

/-- A call that is given a score beyond binary64 does not end as it promises, although it may ask
again. -/
theorem great_score_breaks_promise : ¬ ∀ (Result : Type) (schema : Schema Result),
    IsStage schema → ∀ (settings : Settings) (request : Request) (scene : Scene Desk),
      EndsAsPromised settings schema request scene := by
  intro isPromised
  exact breaks_promise_of_halts reading_great [scoreWords 1] (isPromised _ _ .score _ _ _)

end MoveAudit.Reasoning
