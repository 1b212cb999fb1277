/-
Module: Horarium.Callback.Basic
Purpose: The callback of a job: what is done when a timer fires. A job names a tenant and a timer
  and no more; the record is read again at every fire, so that a timer which was deleted or changed
  since its job was registered is called as it is now, or not at all.
Trusted boundary: human-reviewed definitions; network, source of tokens and store are parameters
Main exports: CallbackOutcome, CallbackError, Callback.Decision, Callback.ofAnswer,
  Callback.Executor, Callback.perform, Callback.execute
-/
import Horarium.Callback.Token
import Horarium.Context
import Horarium.Engine.Job
import Horarium.Store.Basic

namespace Horarium

/-- What a fire came to. -/
inductive CallbackOutcome where
  | delivered (status : Nat)
  | rejected (status : Nat)
  | timerMissing
  | unsupportedMethod (declared : String)
  | noPath
deriving DecidableEq, Repr

/-- Why a fire came to nothing. -/
inductive CallbackError where
  | unreachable
  | token (cause : TokenError)
  | store (cause : StoreError)
  | config (cause : InputError)
deriving DecidableEq, Repr

/-- The wording of the reason; a token source and a store keep theirs. -/
def CallbackError.message : CallbackError → String
  | .unreachable => "HTTP request failed"
  | .token cause => cause.message
  | .store cause => cause.message
  | .config cause => s!"Configuration error: {cause.message}"

namespace Callback

/-- The address of a path below a base: one slash between the two, however many there were. -/
def address (base path : String) : String :=
  let before := (base.toList.reverse.dropWhile (· == '/')).reverse
  let after := path.toList.dropWhile (· == '/')
  String.ofList (before ++ '/' :: after)

/-- What a record says is to be called. -/
inductive Decision where
  | call (method : HttpMethod) (path : String)
  | drop (outcome : CallbackOutcome)
deriving DecidableEq, Repr

/-- What is to be called for the record that is stored now. The method is looked at before the
path. -/
def decide : Option TimerRecord → Decision
  | none => .drop .timerMissing
  | some record => match record.routingEntry with
    | none => .drop .noPath
    | some entry => match HttpMethod.ofDeclared entry.methods with
      | .error declared => .drop (.unsupportedMethod declared)
      | .ok method => match entry.staticPath? with
        | none => .drop .noPath
        | some path => .call method path

/-- The request that carries a callback. -/
def request (base : String) (method : HttpMethod) (path requestId : String) (job : JobData)
    (token : Option String) : OutboundRequest where
  method := method
  url := address base path
  headers := ("x-tenant", job.tenant) :: ("x-request-id", requestId)
    :: ((job.user.map fun u => ("x-user-id", u.toText)).toList
      ++ (token.map fun t => ("authorization", s!"Bearer {t}")).toList)
  body := ""

/-- What the answer of the target means. -/
def ofAnswer : Option InboundResponse → Except CallbackError CallbackOutcome
  | none => .error .unreachable
  | some response =>
    if response.isSuccess then .ok (.delivered response.status) else .ok (.rejected response.status)

/-- What a callback needs beside the store: the network with its client, the base of all addresses,
and the source of tokens. -/
structure Executor where
  network : Network
  base : String
  tokens : TokenSource

/-- The callback of a job for the record that is stored now, and the exchanges on the network. The
token is asked for once it is clear what is to be called, and before the address is looked at. -/
def perform (executor : Executor) (requestId : String) (job : JobData)
    (stored : Option TimerRecord) :
    Except CallbackError CallbackOutcome × List Exchange :=
  match decide stored with
  | .drop outcome => (.ok outcome, [])
  | .call method path =>
    let (token, before) := executor.tokens.token executor.network job.tenant job.user
    match token with
    | .error cause => (.error (.token cause), before)
    | .ok token =>
      let (answer, exchanges) :=
        (request executor.base method path requestId job token).send executor.network
      (ofAnswer answer, before ++ exchanges)

/-- The fire of a job: what it came to, the exchanges on the network, and the store after it. -/
def execute {σ : Type} [TimerStore σ] (executor : Executor) (requestId : String) (job : JobData)
    (store : σ) : Except CallbackError CallbackOutcome × List Exchange × σ :=
  match Context.ofTenant job.tenant with
  | .error cause => (.error (.config cause), [], store)
  | .ok ctx =>
    match TimerStore.answer (.findById ctx.tenant job.timer) store with
    | (.error cause, store) => (.error (.store cause), [], store)
    | (.ok stored, store) =>
      let (outcome, exchanges) := perform executor requestId job stored
      (outcome, exchanges, store)

end Callback

end Horarium
