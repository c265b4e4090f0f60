import BoundSql.Proofs.Wire.Batch
import BoundSql.Proofs.Wire.Row

/-!
# A statement runs at most once

A statement is prepared first.  What the server makes of that decides how its text is run: with its
parameters, or alone, or not at all.

* `Binds`, `Unbound` — the bytes that are sent for parameters, and why there are none.
* `boundParameters_cases` — parameters do the one or the other.
* `RejectsBatch`, `NotRun` — the refusal that has a text sent alone, and why a text is not run.
* `Server.recorded` — a server that writes down what it is sent.
* `execute_recorded` — what is listed as sent is what the server was sent.
* `RunsOnce` — that a text is run alone, or with parameters, or not at all and for which reason.
* `runsOnce_execute` — so it is with every statement.
* **`execute_once`** — a statement is prepared once and its text runs at most once.
-/

namespace BoundSql.Wire

/-! ## Parameters -/

/-- **The bytes that are sent for parameters**: as many as the statement has, each value as a value
of its type. -/
structure Binds (types : List DataType) (params : List Value) (bytes : List RawValue) : Prop where
  length : params.length = types.length
  each : List.Forall₂ (fun p b => p.2.bind p.1 = .ok b) (types.zip params) bytes

/-- **Why parameters are not sent**: there are too many or too few, or one of them is no value of
its type, and the ones in front of it are. -/
inductive Unbound (types : List DataType) (params : List Value) : Foreign → Prop
  | count : params.length ≠ types.length →
      Unbound types params (ClientFault.parameterCount types.length params.length).foreign
  | value {front rest : List (DataType × Value)} {t : DataType} {v : Value} {fault : BindFault} :
      params.length = types.length → types.zip params = front ++ (t, v) :: rest →
      (∀ p ∈ front, ∃ b, p.2.bind p.1 = .ok b) → v.bind t = .error fault →
      Unbound types params (bindFailure front.length fault)

section Parameters

variable {types : List DataType} {params : List Value} {bytes : List RawValue} {cause : Foreign}

lemma bindFrom_of_forall₂ {parameters : List (DataType × Value)}
    (h : List.Forall₂ (fun p b => p.2.bind p.1 = .ok b) parameters bytes) (index : Nat) :
    bindFrom index parameters = .ok bytes := by
  induction h generalizing index with
  | nil => rfl
  | @cons p b parameters bytes hbind _ ih =>
    obtain ⟨t, v⟩ := p
    have hvalue : v.bind t = .ok b := hbind
    rw [bindFrom, hvalue]
    simp only [ih (index + 1), Except.map]

/-- **The first parameter that is no value of its type** decides. -/
lemma bindFrom_of_fault {front rest : List (DataType × Value)} {t : DataType} {v : Value}
    {fault : BindFault} (hfront : ∀ p ∈ front, ∃ b, p.2.bind p.1 = .ok b)
    (hfault : v.bind t = .error fault) (index : Nat) :
    bindFrom index (front ++ (t, v) :: rest) =
      .error (bindFailure (index + front.length) fault) := by
  induction front generalizing index with
  | nil =>
    rw [List.nil_append, bindFrom, hfault]
    rfl
  | cons p front ih =>
    obtain ⟨t', v'⟩ := p
    obtain ⟨b, hb⟩ : ∃ b, v'.bind t' = .ok b := hfront (t', v') (by simp)
    have hrest := ih (fun p hp => hfront p (by simp [hp])) (index + 1)
    rw [List.cons_append, bindFrom, hb]
    simp only [hrest, Except.map, List.length_cons]
    rw [Nat.add_comm front.length, ← Nat.add_assoc]

/-- **Parameters are sent, or there is a reason why they are not.** -/
lemma boundParameters_cases (statement : Prepared) (params : List Value) :
    (∃ bytes, boundParameters statement params = .ok bytes ∧
      Binds statement.parameters params bytes) ∨
    ∃ fault, boundParameters statement params = .error fault ∧
      Unbound statement.parameters params fault.foreign := by
  by_cases hlength : params.length = statement.parameters.length
  · rcases forall₂_or_first (R := fun p b => p.2.bind p.1 = .ok b)
      (statement.parameters.zip params) with
      ⟨bytes, heach⟩ | ⟨front, ⟨t, v⟩, rest, hsplit, hfront, hnone⟩
    · refine .inl ⟨bytes, ?_, hlength, heach⟩
      rw [boundParameters, if_pos hlength, bindAll, bindFrom_of_forall₂ heach]
      rfl
    · cases hfault : v.bind t with
      | ok b => exact absurd hfault (hnone b)
      | error fault =>
        refine .inr ⟨.unsent (bindFailure front.length fault), ?_,
          .value hlength hsplit hfront hfault⟩
        rw [boundParameters, if_pos hlength, bindAll, hsplit, bindFrom_of_fault hfront hfault,
          Nat.zero_add]
        rfl
  · refine .inr ⟨_, ?_, .count hlength⟩
    rw [boundParameters, if_neg hlength]

/-- Parameters that there is a reason not to send have no bytes. -/
lemma Unbound.not_binds (h : Unbound types params cause) (bytes : List RawValue) :
    ¬ Binds types params bytes := by
  intro hbinds
  cases h with
  | count hlength => exact hlength hbinds.length
  | @value front rest t v fault _ hsplit _ hfault =>
    obtain ⟨b, hb⟩ := exists_of_mem_of_forall₂ hbinds.each (t, v) (by simp [hsplit])
    cases hfault.symm.trans hb

/-- Parameters are sent as the same bytes each time. -/
lemma Binds.unique {others : List RawValue} (h : Binds types params bytes)
    (h' : Binds types params others) : bytes = others :=
  List.right_unique_forall₂' (fun _ _ _ hb hb' => Except.ok.inj (hb.symm.trans hb')) h.each h'.each

end Parameters

/-! ## Refusals -/

/-- **The refusal of several statements at once**: a syntax error whose message speaks of multiple
commands. -/
structure RejectsBatch (error : ServerError) : Prop where
  code : error.code = "42601"
  message : "multiple commands".toList <:+: error.message.toList

lemma containsRun_iff {run cs : List Char} :
    ServerError.containsRun run cs = true ↔ run <:+: cs := by
  induction cs with
  | nil => simp [ServerError.containsRun]
  | cons c cs ih => simp [ServerError.containsRun, ih, List.infix_cons_iff]

lemma isMultiStatement_iff {error : ServerError} :
    error.isMultiStatement = true ↔ RejectsBatch error := by
  rw [ServerError.isMultiStatement, Bool.and_eq_true, beq_iff_eq, containsRun_iff]
  exact ⟨fun h => ⟨h.1, h.2⟩, fun h => ⟨h.code, h.message⟩⟩

/-- **Why a text is not run**: it could not be prepared, and is not one that is sent alone; or it
was prepared and its parameters are not sent. -/
inductive NotRun (params : List Value) : PrepareAnswer → Foreign → Prop
  | refused {error : ServerError} : ¬ (params = [] ∧ RejectsBatch error) →
      NotRun params (.refused error) (ClientFault.server error).foreign
  | closed : NotRun params .closed ClientFault.closed.foreign
  | unbound {statement : Prepared} {cause : Foreign} :
      Unbound statement.parameters params cause → NotRun params (.prepared statement) cause

/-! ## What the server is sent -/

/-- **A server that writes down what it is sent.** -/
def Server.recorded {σ : Type} (server : Server σ) : Server (σ × List Sent) where
  prepare s text :=
    let (answer, state) := server.prepare s.1 text
    (answer, state, s.2 ++ [.prepare text])
  execute s parameters :=
    let (answer, state) := server.execute s.1 parameters
    (answer, state, s.2 ++ [.bind parameters])
  run s text :=
    let (messages, state) := server.run s.1 text
    (messages, state, s.2 ++ [.run text])

/-- The same exchange, with what was sent written down. -/
def Exchange.recorded {σ : Type} (log : List Sent) (e : Exchange σ) : Exchange (σ × List Sent) :=
  ⟨e.result, e.sent, (e.state, log ++ e.sent), e.isOpen⟩

section Execution

variable {σ : Type} (server : Server σ) {state s : σ} {text : String} {params : List Value}
  {statement : Prepared} {error : ServerError}

lemma executePrepared_recorded (log before : List Sent) :
    executePrepared server.recorded (state, log ++ before) before statement params =
      (executePrepared server state before statement params).recorded log := by
  rw [executePrepared, executePrepared]
  cases boundParameters statement params with
  | error fault => rfl
  | ok bytes =>
    rcases hanswer : server.execute state bytes with ⟨answer, s⟩
    simp only [Server.recorded, hanswer]
    cases answer with
    | refused error => simp [Exchange.recorded]
    | closed => simp [Exchange.recorded]
    | ran rows ending => simp [Exchange.recorded]

lemma runText_recorded (log before : List Sent) :
    runText server.recorded (state, log ++ before) before text =
      (runText server state before text).recorded log := by
  rcases hanswer : server.run state text with ⟨messages, s⟩
  simp [runText, Server.recorded, hanswer, Exchange.recorded]

/-- **What is listed as sent is what the server was sent.** -/
lemma execute_recorded (state : σ) (text : String) (params : List Value) (log : List Sent) :
    execute server.recorded (state, log) text params =
      (execute server state text params).recorded log := by
  rcases hanswer : server.prepare state text with ⟨answer, s⟩
  have hrecorded : server.recorded.prepare (state, log) text =
      (answer, s, log ++ [.prepare text]) := by
    simp [Server.recorded, hanswer]
  rw [execute, execute, hanswer, hrecorded]
  cases answer with
  | prepared statement => exact executePrepared_recorded server log [.prepare text]
  | refused error =>
    by_cases hbatch : (params.isEmpty && error.isMultiStatement) = true
    · simp only [if_pos hbatch]
      exact runText_recorded server log [.prepare text]
    · simp only [if_neg hbatch]
      rfl
  | closed => rfl

/-! ## One statement -/

/-- Parameters that are sent are executed once; otherwise nothing more is sent. -/
lemma executePrepared_cases (state : σ) (before : List Sent) (statement : Prepared)
    (params : List Value) :
    (∃ bytes, Binds statement.parameters params bytes ∧
      (executePrepared server state before statement params).sent = before ++ [.bind bytes]) ∨
    ∃ cause, Unbound statement.parameters params cause ∧
      executePrepared server state before statement params =
        ⟨.error (.driver cause), before, state, true⟩ := by
  rcases boundParameters_cases statement params with
    ⟨bytes, hbound, hbinds⟩ | ⟨fault, hbound, hcause⟩
  · refine .inl ⟨bytes, hbinds, ?_⟩
    rw [executePrepared, hbound]
    rcases hanswer : server.execute state bytes with ⟨answer, s⟩
    simp only [hanswer]
    cases answer with
    | refused error => rfl
    | closed => rfl
    | ran rows ending => rfl
  · refine .inr ⟨fault.foreign, hcause, ?_⟩
    rw [executePrepared, hbound]
    rfl

/-- The test that decides whether a refused text is sent alone. -/
lemma sentAlone_iff :
    (params.isEmpty && error.isMultiStatement) = true ↔ params = [] ∧ RejectsBatch error := by
  rw [Bool.and_eq_true, List.isEmpty_iff, isMultiStatement_iff]

/-- **A statement that runs at most once.** -/
structure RunsOnce (server : Server σ) (state : σ) (text : String) (params : List Value)
    (e : Exchange σ) : Prop where
  /-- It is prepared once, and then its text is run once or not at all. -/
  once : e.sent = [.prepare text] ∨ e.sent = [.prepare text, .run text] ∨
    ∃ bytes, e.sent = [.prepare text, .bind bytes]
  /-- Alone it is run if it was refused as several statements, and has no parameters. -/
  alone : .run text ∈ e.sent ↔ params = [] ∧
    ∃ error, (server.prepare state text).1 = .refused error ∧ RejectsBatch error
  /-- With parameters it is run if it was prepared and they can be sent. -/
  withParameters : ∀ bytes, .bind bytes ∈ e.sent ↔
    ∃ statement, (server.prepare state text).1 = .prepared statement ∧
      Binds statement.parameters params bytes
  /-- If it is not run, the reason is returned. -/
  notRun : e.sent = [.prepare text] → ∃ cause, NotRun params (server.prepare state text).1 cause ∧
    e.result = .error (.driver cause)
  /-- What comes of it alone is the response to the messages of the server. -/
  answered : .run text ∈ e.sent → e.result =
    (textResponse (server.run (server.prepare state text).2 text).1).mapError ClientFault.failure

section Cases

variable {e : Exchange σ} {cause : Foreign} {bytes : List RawValue}

/-- What is not run is neither sent alone nor with parameters. -/
lemma NotRun.runsOnce (h : NotRun params (server.prepare state text).1 cause)
    (hsent : e.sent = [.prepare text]) (hresult : e.result = .error (.driver cause)) :
    RunsOnce server state text params e where
  once := .inl hsent
  alone := by
    rw [hsent]
    refine iff_of_false (by simp) ?_
    rintro ⟨hparams, error, hanswer, hbatch⟩
    rw [hanswer] at h
    cases h with
    | refused hother => exact hother ⟨hparams, hbatch⟩
  withParameters bytes := by
    rw [hsent]
    refine iff_of_false (by simp) ?_
    rintro ⟨statement, hanswer, hbinds⟩
    rw [hanswer] at h
    cases h with
    | unbound hcause => exact hcause.not_binds bytes hbinds
  notRun _ := ⟨cause, h, hresult⟩
  answered hrun := by simp [hsent] at hrun

/-- A prepared statement whose parameters can be sent runs with them. -/
lemma runsOnce_of_binds (hanswer : (server.prepare state text).1 = .prepared statement)
    (hbinds : Binds statement.parameters params bytes)
    (hsent : e.sent = [.prepare text, .bind bytes]) : RunsOnce server state text params e where
  once := .inr (.inr ⟨bytes, hsent⟩)
  alone := by simp [hsent, hanswer]
  withParameters others := by
    rw [hsent, hanswer]
    constructor
    · intro h
      obtain rfl : others = bytes := by simpa using h
      exact ⟨statement, rfl, hbinds⟩
    · rintro ⟨_, ⟨⟩, hothers⟩
      rw [hothers.unique hbinds]
      simp
  notRun h := by simp [hsent] at h
  answered hrun := by simp [hsent] at hrun

/-- A text that was refused as several statements, and has no parameters, runs alone. -/
lemma runsOnce_of_rejectsBatch (hanswer : (server.prepare state text).1 = .refused error)
    (hbatch : params = [] ∧ RejectsBatch error) :
    RunsOnce server state text params
      (runText server (server.prepare state text).2 [.prepare text] text) where
  once := .inr (.inl rfl)
  alone := by simp [runText, hanswer, hbatch]
  withParameters bytes := by simp [runText, hanswer]
  notRun h := by simp [runText] at h
  answered _ := rfl

end Cases

lemma runsOnce_execute (state : σ) (text : String) (params : List Value) :
    RunsOnce server state text params (execute server state text params) := by
  rcases hprepare : server.prepare state text with ⟨answer, s⟩
  have hanswer : (server.prepare state text).1 = answer := by rw [hprepare]
  rw [execute, hprepare]
  cases answer with
  | prepared statement =>
    rcases executePrepared_cases server s [.prepare text] statement params with
      ⟨bytes, hbinds, hsent⟩ | ⟨cause, hcause, hran⟩
    · exact runsOnce_of_binds server hanswer hbinds hsent
    · have hnot : NotRun params (server.prepare state text).1 cause := by
        rw [hanswer]
        exact .unbound hcause
      exact hnot.runsOnce server (congrArg Exchange.sent hran) (congrArg Exchange.result hran)
  | refused error =>
    by_cases hbatch : params = [] ∧ RejectsBatch error
    · simp only [if_pos (sentAlone_iff.mpr hbatch)]
      have hstate : (server.prepare state text).2 = s := by rw [hprepare]
      exact hstate ▸ runsOnce_of_rejectsBatch server hanswer hbatch
    · simp only [if_neg (mt sentAlone_iff.mp hbatch)]
      exact NotRun.runsOnce server (hanswer ▸ .refused hbatch) rfl rfl
  | closed => exact NotRun.runsOnce server (hanswer ▸ .closed) rfl rfl

/-- **A statement is prepared once, and its text runs at most once.**  What is listed as sent is all
that the server was sent.  Of a text that runs alone, the response holds all messages, if each is a
part of a result; and messages that are put together have the two responses put together. -/
theorem execute_once (state : σ) (text : String) (params : List Value) :
    RunsOnce server state text params (execute server state text params) ∧
      execute server.recorded (state, []) text params =
        (execute server state text params).recorded [] ∧
      (∀ messages, (∃ r, textResponse messages = .ok r) ↔
        ∀ before message after, messages = before ++ message :: after →
          IsPart (announced none before) message) ∧
      (∀ messages r, textResponse messages = .ok r → Gathers messages r) ∧
      (∀ first second r s, textResponse first = .ok r → textResponse second = .ok s →
        textResponse (first ++ second) = .ok (r.join s)) ∧
      (∀ parts, batchResponse parts = ⟨(parts.filterMap TextPart.row?).map textRow,
        (parts.map TextPart.count).sum⟩) ∧
      ∀ first second, batchResponse (first ++ second) =
        (batchResponse first).join (batchResponse second) := by
  exact ⟨runsOnce_execute server state text params, execute_recorded server state text params [],
    fun _ => exists_textResponse_iff, fun _ _ => gathers_of_textResponse,
    fun _ _ _ _ => textResponse_append, batchResponse_eq, batchResponse_append⟩

end Execution

end BoundSql.Wire
