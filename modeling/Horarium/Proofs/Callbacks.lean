/-
Module: Horarium.Proofs.Callbacks
Purpose: The callback of a job: whether the target is called, with what, and what a fire comes to.
  The conditions are written down apart from the order in which they are looked at; the order shows
  in what a fire comes to that calls nothing. A source of tokens is asked only once it is clear what
  is to be called.
Trusted boundary: none; the network stands for itself and its client, as in `Network`
Main exports: RoutingEntry.LeadsTo, Callback.Sendable, Callback.Executor.credentials,
  Callback.calls, Callback.Target, Callback.Decided, Callback.execute_decided
-/
import Mathlib
import Horarium.Callback.Basic
import Horarium.Proofs.ModuleVersions
import Horarium.Proofs.StoredRecords
import Horarium.Proofs.UuidText

namespace Horarium

namespace Text

variable {p : Char → Bool} {start cs finish : List Char}

theorem dropWhile_append_eq (all : ∀ c ∈ start, p c = true) (stops : ∀ c ∈ cs.head?, p c = false) :
    (start ++ cs).dropWhile p = cs := by
  rw [List.dropWhile_append_of_pos all]
  cases cs with
  | nil => rfl
  | cons c cs => exact List.dropWhile_cons_of_neg (by simp [stops c rfl])

theorem reverse_dropWhile_append_eq (all : ∀ c ∈ finish, p c = true)
    (stops : ∀ c ∈ cs.getLast?, p c = false) :
    ((cs ++ finish).reverse.dropWhile p).reverse = cs := by
  rw [List.reverse_append, dropWhile_append_eq (by simpa using all) (by simpa using stops),
    List.reverse_reverse]

theorem exists_leading (p : Char → Bool) (cs : List Char) :
    ∃ start, cs = start ++ cs.dropWhile p ∧ ∀ c ∈ start, p c = true :=
  ⟨cs.takeWhile p, List.takeWhile_append_dropWhile.symm,
    fun _ member => List.mem_takeWhile_imp member⟩

theorem exists_trailing (p : Char → Bool) (cs : List Char) :
    ∃ finish, cs = (cs.reverse.dropWhile p).reverse ++ finish ∧ ∀ c ∈ finish, p c = true := by
  obtain ⟨start, whole, all⟩ := exists_leading p cs.reverse
  refine ⟨start.reverse, ?_, by simpa using all⟩
  rw [← List.reverse_append, ← whole, List.reverse_reverse]

theorem exists_padding (text : List Char) :
    ∃ before after, text = before ++ trim text ++ after ∧
      ∀ c ∈ before ++ after, isBlank c = true := by
  obtain ⟨before, whole, leading⟩ := exists_leading isBlank text
  obtain ⟨after, rest, trailing⟩ := exists_trailing isBlank (trimStart text)
  refine ⟨before, after, ?_, List.forall_mem_append.mpr ⟨leading, trailing⟩⟩
  rw [List.append_assoc]
  exact whole.trans (congrArg (before ++ ·) rest)

/-- Trimming leaves what stands between the blanks. -/
theorem Unpadded.trim_padded (unpadded : Unpadded cs)
    (blank : ∀ c ∈ start ++ finish, isBlank c = true) :
    trim (start ++ cs ++ finish) = cs := by
  rw [List.forall_mem_append] at blank
  rw [trim, trimStart, List.append_assoc]
  cases cs with
  | nil =>
    rw [List.nil_append, List.dropWhile_eq_nil_iff.mpr (List.forall_mem_append.mpr blank)]
    rfl
  | cons c cs =>
    have begins : ∀ d ∈ (c :: cs ++ finish).head?, isBlank d = false := unpadded.begins
    rw [dropWhile_append_eq blank.1 begins]
    exact reverse_dropWhile_append_eq blank.2 unpadded.ends

theorem toNat_of_isAlphanum {c : Char} (letter : c.isAlphanum = true) :
    48 ≤ c.toNat ∧ c.toNat ≤ 122 := by
  simp only [Char.isAlphanum, Char.isAlpha, Char.isUpper, Char.isLower, Char.isDigit,
    Bool.or_eq_true, Bool.and_eq_true, decide_eq_true_eq, UInt32.le_iff_toNat_le,
    ge_iff_le] at letter
  have code : c.val.toNat = c.toNat := rfl
  simp at letter
  omega

/-- A character has a capital letter as its own just if both have the same small letter. -/
theorem toUpper_eq_iff {c capital : Char} (isUpper : capital.isUpper = true) :
    c.toUpper = capital ↔ c.toLower = capital.toLower := by
  constructor
  · rintro rfl
    exact (Char.toLower_toUpper_eq_toLower c).symm
  · intro same
    calc c.toUpper = c.toLower.toUpper := (Char.toUpper_toLower_eq_toUpper c).symm
      _ = capital.toLower.toUpper := by rw [same]
      _ = capital.toUpper := Char.toUpper_toLower_eq_toUpper capital
      _ = capital := Char.toUpper_eq_of_not_isLower (Char.not_isLower_of_isUpper isUpper)

theorem map_toUpper_eq_iff {word capitals : List Char} (upper : ∀ c ∈ capitals, c.isUpper = true) :
    word.map Char.toUpper = capitals ↔ word.map Char.toLower = capitals.map Char.toLower := by
  induction word generalizing capitals with
  | nil => simp [eq_comm]
  | cons c word ih =>
    cases capitals with
    | nil => simp
    | cons capital capitals =>
      rw [List.forall_mem_cons] at upper
      simp only [List.map_cons, List.cons.injEq, toUpper_eq_iff upper.1, ih upper.2]

/-- A letter is not blank. -/
theorem isBlank_of_isAlpha {c : Char} (letter : c.isAlpha = true) : isBlank c = false := by
  have bounds := toNat_of_isAlphanum (c := c) (by simp [Char.isAlphanum, letter])
  simp only [isBlank]
  grind

end Text

/-! ### What is to be called -/

namespace HttpMethod

/-- The text is the method's name in any case of its letters, with blanks around it or without. -/
def NamedBy (method : HttpMethod) (text : String) : Prop :=
  ∃ before word after, text.toList = before ++ word ++ after ∧
    (∀ c ∈ before ++ after, Text.isBlank c = true) ∧
    word.map Char.toLower = method.name.toList.map Char.toLower

theorem parse?_eq_some_iff {text : String} {method : HttpMethod} :
    parse? text = some method ↔ method.NamedBy text := by
  have upper : ∀ c ∈ method.name.toList, c.isUpper = true :=
    List.all_eq_true.mp (by cases method <;> rfl)
  have spelled : parse? text = some method ↔
      (Text.trim text.toList).map Char.toUpper = method.name.toList := by
    rw [← String.toList_ofList (l := (Text.trim text.toList).map Char.toUpper), String.toList_inj]
    unfold parse?
    split <;> cases method <;> simp_all [name]
  rw [spelled]
  constructor
  · intro named
    obtain ⟨before, after, whole, blank⟩ := Text.exists_padding text.toList
    exact ⟨before, _, after, whole, blank, (Text.map_toUpper_eq_iff upper).mp named⟩
  · rintro ⟨before, word, after, whole, blank, named⟩
    have capitals := (Text.map_toUpper_eq_iff upper).mpr named
    have solid : ∀ c ∈ word, Text.isBlank c = false := by
      intro c member
      have letter : c.toUpper.isUpper = true := upper _ (capitals ▸ List.mem_map_of_mem member)
      exact Text.isBlank_of_isAlpha (Char.isUpper_toUpper_eq_isAlpha c ▸ letter)
    rw [whole, (Text.unpadded_of_solid solid).trim_padded blank, capitals]

/-- A text that is the first of those declared is handed back if it names no method. -/
theorem ofDeclared_eq_error_iff {methods : List String} {declared : String} :
    ofDeclared methods = .error declared ↔
      methods.head? = some declared ∧ ∀ method : HttpMethod, ¬ method.NamedBy declared := by
  cases methods with
  | nil => simp [ofDeclared]
  | cons first others =>
    simp only [ofDeclared, List.head?_cons, Option.some.injEq, ← parse?_eq_some_iff]
    cases named : parse? first with
    | none =>
      simp only [Except.error.injEq, iff_self_and]
      rintro rfl
      simp [named]
    | some method =>
      simp only [reduceCtorEq, false_iff, not_and, not_forall, not_not]
      rintro rfl
      exact ⟨method, named⟩

end HttpMethod

/-- The digits of an identifier are all that is written but the hyphens. -/
theorem Uuid.mem_hex_of_mem_chars {id : Uuid} {c : Char} (member : c ∈ id.chars) (solid : c ≠ '-') :
    c ∈ id.hex := by
  rw [← Uuid.flatten_groups]
  simpa [Uuid.chars, Uuid.groups, solid] using member

namespace RoutingEntry

variable {entry : RoutingEntry}

/-- The method of an entry is the one that its first declared text names, and POST if it declares
none. -/
def Uses (entry : RoutingEntry) (method : HttpMethod) : Prop :=
  match entry.methods with
  | [] => method = .post
  | declared :: _ => method.NamedBy declared

/-- The path of an entry is the literal one, unless that is empty or missing, else its pattern; it
is not empty. -/
def LeadsTo (entry : RoutingEntry) (path : String) : Prop :=
  path ≠ "" ∧ (entry.path = some path ∨ entry.path.getD "" = "" ∧ entry.pathPattern = some path)

theorem ofDeclared_eq_ok_iff {method : HttpMethod} :
    HttpMethod.ofDeclared entry.methods = .ok method ↔ entry.Uses method := by
  unfold HttpMethod.ofDeclared Uses
  cases entry.methods with
  | nil => simp [HttpMethod.fallback, eq_comm]
  | cons declared others =>
    simp only [← HttpMethod.parse?_eq_some_iff]
    cases HttpMethod.parse? declared <;> simp

theorem staticPath?_eq_some_iff {path : String} :
    entry.staticPath? = some path ↔ entry.LeadsTo path := by
  unfold staticPath? LeadsTo
  cases entry.path <;> cases entry.pathPattern <;> simp [Option.filter] <;> grind

end RoutingEntry

namespace Callback

variable {base path url : String}

/-! ### The address -/

/-- Some slashes. -/
def slashes (n : Nat) : String := String.ofList (List.replicate n '/')

/-- The address is the base without the slashes at its end and the path without those at its start,
with one slash between the two. -/
def Joined (base path url : String) : Prop :=
  ∃ front before after back, base.toList = front ++ before ∧ path.toList = after ++ back ∧
    (∀ c ∈ before ++ after, c = '/') ∧ (∀ c ∈ front.getLast?, c ≠ '/') ∧
    (∀ c ∈ back.head?, c ≠ '/') ∧
    url.toList = front ++ '/' :: back

theorem joined_iff : Joined base path url ↔ url = address base path := by
  constructor
  · rintro ⟨front, before, after, back, first, second, all, ends, begins, whole⟩
    rw [List.forall_mem_append] at all
    have kept : (base.toList.reverse.dropWhile (· == '/')).reverse = front := by
      rw [first]
      exact Text.reverse_dropWhile_append_eq (by simpa using all.1) (by simpa using ends)
    have rest : path.toList.dropWhile (· == '/') = back := by
      rw [second]
      exact Text.dropWhile_append_eq (by simpa using all.2) (by simpa using begins)
    rw [← String.toList_inj, whole, address, kept, rest, String.toList_ofList]
  · rintro rfl
    obtain ⟨before, first, trailing⟩ := Text.exists_trailing (· == '/') base.toList
    obtain ⟨after, second, leading⟩ := Text.exists_leading (· == '/') path.toList
    refine ⟨_, before, after, _, first, second, ?_, ?_, ?_, String.toList_ofList⟩
    · simpa using List.forall_mem_append.mpr ⟨trailing, leading⟩
    · intro c last
      have ends := List.head?_dropWhile_not (· == '/') base.toList.reverse
      rw [List.getLast?_reverse, Option.mem_def] at last
      simpa [last] using ends
    · intro c next
      have begins := List.head?_dropWhile_not (· == '/') path.toList
      simpa [Option.mem_def.mp next] using begins

/-- Slashes at the joint make no difference. -/
theorem Joined.slashes (joined : Joined base path url) (n m : Nat) :
    Joined (base ++ slashes n) (slashes m ++ path) url := by
  obtain ⟨front, before, after, back, first, second, all, ends, begins, whole⟩ := joined
  rw [List.forall_mem_append] at all
  refine ⟨front, before ++ List.replicate n '/', List.replicate m '/' ++ after, back, ?_, ?_, ?_,
    ends, begins, whole⟩
  · simp [Callback.slashes, first]
  · simp [Callback.slashes, second]
  · simp only [List.forall_mem_append]
    exact ⟨⟨all.1, fun _ => List.eq_of_mem_replicate⟩, fun _ => List.eq_of_mem_replicate, all.2⟩

/-- Neither the base nor the path needs to have slashes where the two meet. -/
example : Joined "http://gateway" "run" "http://gateway/run" ∧
    Joined "http://gateway//" "//run" "http://gateway/run" := by
  simp only [joined_iff]
  decide +kernel

/-! ### What is sent -/

/-- The client accepts the address, and the token as the value of a header. -/
structure Sendable (base path : String) (token : Option String) : Prop where
  address : ∃ url, Joined base path url ∧ (Url.parse? url).isSome = true
  token : ∀ t, token = some t → OutboundRequest.isHeaderValue t = true

/-- The request is the call of a job's timer with this method, path and token. -/
structure Carries (base : String) (requestId : Uuid) (job : JobData) (method : HttpMethod)
    (path : String) (token : Option String) (request : OutboundRequest) : Prop where
  method : request.method = method
  url : ∀ n m, Joined (base ++ slashes n) (slashes m ++ path) request.url
  tenant : request.header? "x-tenant" = some job.tenant
  user : request.header? "x-user-id" = job.user.map Uuid.toText
  requestId : request.header? "x-request-id" = some requestId.toText
  authorization : request.header? "authorization" = token.map ("Bearer " ++ ·)
  body : request.body = ""

theorem isHeaderValue_of_printable {value : String}
    (printable : ∀ c ∈ value.toList, 32 ≤ c.toNat ∧ c.toNat < 127) :
    OutboundRequest.isHeaderValue value = true := by
  refine List.all_eq_true.mpr fun c member => ?_
  have bounds := printable c member
  simp [bounds.1, bounds.2.ne]

/-- The name of a tenant can always be sent. -/
theorem isHeaderValue_of_isTenantName {name : String}
    (isTenantName : Context.isTenantName name = true) :
    OutboundRequest.isHeaderValue name = true := by
  simp only [Context.isTenantName, Bool.and_eq_true, List.all_eq_true] at isTenantName
  refine isHeaderValue_of_printable fun c member => ?_
  have letter := isTenantName.2 c member
  simp only [Context.isTenantChar, Bool.or_eq_true, decide_eq_true_eq] at letter
  rcases letter with letter | rfl
  · have bounds := Text.toNat_of_isAlphanum letter
    omega
  · decide

/-- A written identifier can always be sent. -/
theorem isHeaderValue_toText (id : Uuid) : OutboundRequest.isHeaderValue id.toText = true := by
  have digits : ∀ digit : Fin 16, 32 ≤ (Text.hexDigit digit).toNat ∧
      (Text.hexDigit digit).toNat < 127 := by decide
  refine isHeaderValue_of_printable fun c member => ?_
  by_cases hyphen : c = '-'
  · subst hyphen
    decide
  · have written : c ∈ id.chars := by simpa [Uuid.toText] using member
    obtain ⟨digit, _, rfl⟩ := List.mem_map.mp (Uuid.mem_hex_of_mem_chars written hyphen)
    exact digits digit

theorem isHeaderValue_bearer (token : String) :
    OutboundRequest.isHeaderValue s!"Bearer {token}" = OutboundRequest.isHeaderValue token := by
  have scheme : OutboundRequest.isHeaderValue "Bearer " = true := by decide
  show OutboundRequest.isHeaderValue ("Bearer " ++ token) = _
  unfold OutboundRequest.isHeaderValue at scheme ⊢
  rw [String.toList_append, List.all_append, scheme, Bool.true_and]

theorem isSendable_iff {requestId : Uuid} {job : JobData} {method : HttpMethod}
    {token : Option String} (isTenantName : Context.isTenantName job.tenant = true) :
    (request base method path requestId.toText job token).isSendable = true ↔
      Sendable base path token := by
  have user : ((job.user.map fun u => ("x-user-id", u.toText)).toList.all fun header =>
      OutboundRequest.isHeaderValue header.2) = true := by
    cases job.user <;> simp [isHeaderValue_toText]
  have bearer : ((token.map fun t => ("authorization", s!"Bearer {t}")).toList.all fun header =>
      OutboundRequest.isHeaderValue header.2) = true ↔
      ∀ t, token = some t → OutboundRequest.isHeaderValue t = true := by
    cases token <;> simp [isHeaderValue_bearer]
  have accepted : (∃ url, Joined base path url ∧ (Url.parse? url).isSome = true) ↔
      (Url.parse? (address base path)).isSome = true := by
    simp [joined_iff]
  have fixed := isHeaderValue_of_isTenantName isTenantName
  constructor
  · intro sendable
    simp only [OutboundRequest.isSendable, request, List.all_cons, List.all_append,
      Bool.and_eq_true] at sendable
    exact ⟨accepted.mpr sendable.1, bearer.mp sendable.2.2.2.2⟩
  · intro sendable
    simp only [OutboundRequest.isSendable, request, List.all_cons, List.all_append,
      Bool.and_eq_true]
    exact ⟨accepted.mp sendable.address, fixed, isHeaderValue_toText requestId, user,
      bearer.mpr sendable.token⟩

theorem carries_request (base : String) (requestId : Uuid) (job : JobData) (method : HttpMethod)
    (path : String) (token : Option String) :
    Carries base requestId job method path token
      (request base method path requestId.toText job token) where
  method := rfl
  url := (joined_iff.mpr rfl : Joined base path (address base path)).slashes
  tenant := rfl
  user := by cases shown : job.user <;> cases token <;>
    simp [request, OutboundRequest.header?, shown, List.lookup]
  requestId := rfl
  authorization := by
    cases shown : job.user <;> cases token <;>
      simp [request, OutboundRequest.header?, shown, List.lookup] <;> rfl
  body := rfl

/-! ### What is decided -/

/-- What the source of tokens answers for the tenant and the user of a job, and the exchanges on the
network by which it does so. -/
def Executor.credentials (executor : Executor) (job : JobData) :
    Except TokenError (Option String) × List Exchange :=
  executor.tokens.token executor.network job.tenant job.user

/-- The calls of timers among some exchanges. They carry a request id, and requests for tokens carry
none. -/
def calls (exchanges : List Exchange) : List Exchange :=
  exchanges.filter fun exchange => (exchange.request.header? "x-request-id").isSome

variable {job : JobData} {reading : Except StoreError (Option TimerRecord)} {method : HttpMethod}

/-- A job calls this method and path: its tenant may be one, the store has the record, and the
record has a routing entry of that method and path. -/
structure Target (job : JobData) (reading : Except StoreError (Option TimerRecord))
    (method : HttpMethod) (path : String) : Prop where
  tenant : Context.isTenantName job.tenant = true
  entry : ∃ record entry, reading = .ok (some record) ∧ record.routingEntry = some entry ∧
    entry.Uses method ∧ entry.LeadsTo path

/-- A job calls nothing; the fire comes to what the first check that fails says. -/
inductive Refused (job : JobData) (reading : Except StoreError (Option TimerRecord)) :
    Except CallbackError CallbackOutcome → Prop where
  | tenant (unfit : Context.isTenantName job.tenant = false) :
      Refused job reading (.error (.config (.tenant job.tenant)))
  | store {cause : StoreError} (fit : Context.isTenantName job.tenant = true)
      (failed : reading = .error cause) : Refused job reading (.error (.store cause))
  | missing (fit : Context.isTenantName job.tenant = true) (absent : reading = .ok none) :
      Refused job reading (.ok .timerMissing)
  | entry {record : TimerRecord} (fit : Context.isTenantName job.tenant = true)
      (held : reading = .ok (some record))
      (bare : record.routingEntry = none) : Refused job reading (.ok .noPath)
  | method {record : TimerRecord} {entry : RoutingEntry} {declared : String}
      (fit : Context.isTenantName job.tenant = true) (held : reading = .ok (some record))
      (routed : record.routingEntry = some entry) (first : entry.methods.head? = some declared)
      (unknown : ∀ method : HttpMethod, ¬ method.NamedBy declared) :
      Refused job reading (.ok (.unsupportedMethod declared))
  | path {record : TimerRecord} {entry : RoutingEntry} {method : HttpMethod}
      (fit : Context.isTenantName job.tenant = true) (held : reading = .ok (some record))
      (routed : record.routingEntry = some entry) (known : entry.Uses method)
      (pathless : ∀ path, ¬ entry.LeadsTo path) : Refused job reading (.ok .noPath)

/-- The checks as they are made one after the other: what the fire comes to if one fails, else what
is called. -/
def verdict (job : JobData) (reading : Except StoreError (Option TimerRecord)) :
    Except (Except CallbackError CallbackOutcome) (HttpMethod × String) :=
  match Context.ofTenant job.tenant with
  | .error cause => .error (.error (.config cause))
  | .ok _ => match reading with
    | .error cause => .error (.error (.store cause))
    | .ok stored => match decide stored with
      | .drop outcome => .error (.ok outcome)
      | .call method path => .ok (method, path)

/-- The part of a fire behind the checks. -/
def call (executor : Executor) (requestId : String) (job : JobData) (method : HttpMethod)
    (path : String) :
    Except CallbackError CallbackOutcome × List Exchange :=
  match executor.credentials job with
  | (.error cause, asked) => (.error (.token cause), asked)
  | (.ok token, asked) =>
    let (answer, exchanges) :=
      (request executor.base method path requestId job token).send executor.network
    (ofAnswer answer, asked ++ exchanges)

theorem verdict_of_fit (fit : Context.isTenantName job.tenant = true)
    (stored : Option TimerRecord) :
    verdict job (.ok stored) = match decide stored with
      | .drop outcome => .error (.ok outcome)
      | .call method path => .ok (method, path) := by
  simp only [verdict, Context.ofTenant, if_pos fit]

theorem Target.verdict_eq (target : Target job reading method path) :
    verdict job reading = .ok (method, path) := by
  obtain ⟨fit, record, entry, rfl, routed, uses, leads⟩ := target
  have first := RoutingEntry.ofDeclared_eq_ok_iff.mpr uses
  have second := RoutingEntry.staticPath?_eq_some_iff.mpr leads
  simp only [verdict_of_fit fit, decide, routed, first, second]

theorem Refused.verdict_eq {outcome : Except CallbackError CallbackOutcome}
    (refused : Refused job reading outcome) :
    verdict job reading = .error outcome := by
  cases refused with
  | tenant unfit => simp [verdict, Context.ofTenant, unfit]
  | store fit failed => simp [verdict, Context.ofTenant, fit, failed]
  | missing fit absent => simp [absent, verdict_of_fit fit, decide]
  | entry fit held bare => simp [held, verdict_of_fit fit, decide, bare]
  | method fit held routed first unknown =>
    have refused := HttpMethod.ofDeclared_eq_error_iff.mpr ⟨first, unknown⟩
    simp [held, verdict_of_fit fit, decide, routed, refused]
  | @path _ entry _ fit held routed known pathless =>
    have first := RoutingEntry.ofDeclared_eq_ok_iff.mpr known
    have none : entry.staticPath? = none := by
      simpa [Option.eq_none_iff_forall_ne_some, RoutingEntry.staticPath?_eq_some_iff] using pathless
    simp [held, verdict_of_fit fit, decide, routed, first, none]

/-- Either some check fails or there is something to call. -/
theorem refused_or_target (job : JobData) (reading : Except StoreError (Option TimerRecord)) :
    (∃ outcome, Refused job reading outcome) ∨ ∃ method path, Target job reading method path := by
  cases fit : Context.isTenantName job.tenant with
  | false => exact .inl ⟨_, .tenant fit⟩
  | true =>
    rcases reading with cause | _ | record
    · exact .inl ⟨_, .store fit rfl⟩
    · exact .inl ⟨_, .missing fit rfl⟩
    · cases routed : record.routingEntry with
      | none => exact .inl ⟨_, .entry fit rfl routed⟩
      | some entry =>
        cases named : HttpMethod.ofDeclared entry.methods with
        | error declared =>
          obtain ⟨first, unknown⟩ := HttpMethod.ofDeclared_eq_error_iff.mp named
          exact .inl ⟨_, .method fit rfl routed first unknown⟩
        | ok method =>
          have uses := RoutingEntry.ofDeclared_eq_ok_iff.mp named
          by_cases pathless : ∀ path, ¬ entry.LeadsTo path
          · exact .inl ⟨_, .path fit rfl routed uses pathless⟩
          · obtain ⟨path, leads⟩ := not_forall_not.mp pathless
            exact .inr ⟨method, path, fit, record, entry, rfl, routed, uses, leads⟩

/-- A fire is what the checks say, and behind them the call. -/
theorem execute_eq {σ : Type} [TimerStore σ] (executor : Executor) (requestId : String)
    (job : JobData) (store : σ) :
    ((execute executor requestId job store).1, (execute executor requestId job store).2.1) =
      match verdict job (TimerStore.answer (.findById job.tenant job.timer) store).1 with
      | .error outcome => (outcome, [])
      | .ok (method, path) => call executor requestId job method path := by
  unfold execute verdict Context.ofTenant
  cases fit : Context.isTenantName job.tenant with
  | false => rfl
  | true =>
    simp only [if_true]
    rcases TimerStore.answer (.findById job.tenant job.timer) store with ⟨cause | stored, after⟩
    · rfl
    · simp only [perform, call, Executor.credentials]
      cases decide stored with
      | drop outcome => rfl
      | call method path =>
        rcases executor.tokens.token executor.network job.tenant job.user with
          ⟨cause | token, asked⟩
        · rfl
        · simp only

/-- What a fire comes to, by the first check that fails, and by the answer where the target is
called. -/
inductive Told (executor : Executor) (job : JobData)
    (reading : Except StoreError (Option TimerRecord)) (sent : List Exchange) :
    Except CallbackError CallbackOutcome → Prop where
  | refused {outcome : Except CallbackError CallbackOutcome}
      (refused : Refused job reading outcome) : Told executor job reading sent outcome
  | tokenless {method : HttpMethod} {path : String} {cause : TokenError}
      (target : Target job reading method path)
      (failed : (executor.credentials job).1 = .error cause) :
      Told executor job reading sent (.error (.token cause))
  | unsendable {method : HttpMethod} {path : String} {token : Option String}
      (target : Target job reading method path)
      (given : (executor.credentials job).1 = .ok token)
      (stuck : ¬ Sendable executor.base path token) :
      Told executor job reading sent (.error .unreachable)
  | answered {exchange : Exchange} (once : sent = [exchange]) :
      Told executor job reading sent (ofAnswer exchange.response)

/-- A fire calls its target at most once, and just if there is one, the source of tokens does not
fail and the client accepts the address and the token. The call is that of the target and carries
the tenant and the user of the job. The source of tokens is asked if there is a target, for that
tenant and that user; else nothing is sent. What the fire comes to is what the first failing check
says. -/
structure Decided (executor : Executor) (requestId : Uuid) (job : JobData)
    (reading : Except StoreError (Option TimerRecord))
    (result : Except CallbackError CallbackOutcome) (exchanges : List Exchange) : Prop where
  once : (calls exchanges).length ≤ 1
  sent_iff : calls exchanges ≠ [] ↔ ∃ method path token, Target job reading method path ∧
    (executor.credentials job).1 = .ok token ∧ Sendable executor.base path token
  carries : ∀ exchange ∈ calls exchanges, ∀ method path token, Target job reading method path →
    (executor.credentials job).1 = .ok token →
    Carries executor.base requestId job method path token exchange.request ∧
      exchange.response = executor.network exchange.request
  asked : ∀ method path, Target job reading method path →
    exchanges = (executor.credentials job).2 ++ calls exchanges
  unasked : (∀ method path, ¬ Target job reading method path) →
    Refused job reading result ∧ exchanges = []
  told_iff : ∀ outcome, result = outcome ↔ Told executor job reading (calls exchanges) outcome

theorem Target.not_refused (target : Target job reading method path)
    {outcome : Except CallbackError CallbackOutcome} :
    ¬ Refused job reading outcome := by
  intro refused
  simpa [target.verdict_eq] using refused.verdict_eq

theorem Target.unique (target : Target job reading method path) {method' : HttpMethod}
    {path' : String} (other : Target job reading method' path') :
    method' = method ∧ path' = path := by
  have same := other.verdict_eq.symm.trans target.verdict_eq
  simpa using same

/-- No request for a token passes for a call. -/
theorem calls_credentials (executor : Executor) (job : JobData) :
    calls (executor.credentials job).2 = [] := by
  unfold Executor.credentials TokenSource.token
  cases executor.tokens with
  | fixed token => rfl
  | service url =>
    simp only [OutboundRequest.send]
    split <;> rfl

theorem decided_of_refused (executor : Executor) (requestId : Uuid)
    {outcome : Except CallbackError CallbackOutcome} (refused : Refused job reading outcome) :
    Decided executor requestId job reading outcome [] where
  once := by simp [calls]
  sent_iff := by
    refine iff_of_false (by simp [calls]) ?_
    rintro ⟨method, path, token, target, _⟩
    exact target.not_refused refused
  carries := by simp [calls]
  asked method path target := absurd refused target.not_refused
  unasked _ := ⟨refused, rfl⟩
  told_iff other := by
    constructor
    · rintro rfl
      exact .refused refused
    · intro told
      cases told with
      | refused refused' =>
        simpa using refused.verdict_eq.symm.trans refused'.verdict_eq
      | tokenless target => exact absurd refused target.not_refused
      | unsendable target => exact absurd refused target.not_refused
      | answered once => simp [calls] at once

section Called

variable {executor : Executor} {requestId : Uuid} {sent exchanges : List Exchange}
  {result : Except CallbackError CallbackOutcome}

/-- Behind the checks there is one thing that a fire can come to. -/
theorem Told.unique (target : Target job reading method path)
    (called : sent ≠ [] ↔ ∃ token, (executor.credentials job).1 = .ok token ∧
      Sendable executor.base path token)
    (told : Told executor job reading sent result) {other : Except CallbackError CallbackOutcome}
    (told' : Told executor job reading sent other) : result = other := by
  have sendable {token : Option String} {exchange : Exchange}
      (given : (executor.credentials job).1 = .ok token)
      (once : sent = [exchange]) : Sendable executor.base path token := by
    obtain ⟨token', given', sendable⟩ := called.mp (by simp [once])
    rw [given, Except.ok.injEq] at given'
    exact given' ▸ sendable
  have untold {cause : TokenError} {exchange : Exchange}
      (failed : (executor.credentials job).1 = .error cause) : sent ≠ [exchange] := by
    intro once
    obtain ⟨token, given, _⟩ := called.mp (by simp [once])
    simp [failed] at given
  cases told with
  | refused refused => exact absurd refused target.not_refused
  | tokenless _ failed =>
    cases told' with
    | refused refused => exact absurd refused target.not_refused
    | tokenless _ failed' => simpa [failed] using failed'
    | unsendable _ given => simp [failed] at given
    | answered once => exact absurd once (untold failed)
  | unsendable mark given stuck =>
    obtain ⟨rfl, rfl⟩ := target.unique mark
    cases told' with
    | refused refused => exact absurd refused target.not_refused
    | tokenless _ failed => simp [given] at failed
    | unsendable => rfl
    | answered once => exact absurd (sendable given once) stuck
  | answered once =>
    cases told' with
    | refused refused => exact absurd refused target.not_refused
    | tokenless _ failed => exact absurd once (untold failed)
    | unsendable mark given stuck =>
      obtain ⟨rfl, rfl⟩ := target.unique mark
      exact absurd (sendable given once) stuck
    | answered once' =>
      obtain ⟨rfl, _⟩ := List.cons.inj (once.symm.trans once')
      rfl

theorem decided_of_told (target : Target job reading method path)
    (called : sent ≠ [] ↔ ∃ token, (executor.credentials job).1 = .ok token ∧
      Sendable executor.base path token)
    (once : sent.length ≤ 1)
    (carries : ∀ exchange ∈ sent, ∀ token, (executor.credentials job).1 = .ok token →
      Carries executor.base requestId job method path token exchange.request ∧
      exchange.response = executor.network exchange.request)
    (told : Told executor job reading sent result) :
    Decided executor requestId job reading result ((executor.credentials job).2 ++ sent) := by
  have own : calls ((executor.credentials job).2 ++ sent) = sent := by
    have numbered : calls sent = sent := by
      refine List.filter_eq_self.mpr fun exchange member => ?_
      obtain ⟨token, given, _⟩ := called.mp (List.ne_nil_of_mem member)
      rw [(carries exchange member token given).1.requestId, Option.isSome_some]
    have apart := calls_credentials executor job
    unfold calls at apart numbered ⊢
    rw [List.filter_append, apart, numbered, List.nil_append]
  refine ⟨own.symm ▸ once, ?_, ?_, fun _ _ _ => by rw [own], ?_, ?_⟩
  · rw [own, called]
    constructor
    · rintro ⟨token, given, sendable⟩
      exact ⟨method, path, token, target, given, sendable⟩
    · rintro ⟨method', path', token, mark, given, sendable⟩
      obtain ⟨rfl, rfl⟩ := target.unique mark
      exact ⟨token, given, sendable⟩
  · rw [own]
    intro exchange member method' path' token mark given
    obtain ⟨rfl, rfl⟩ := target.unique mark
    exact carries exchange member token given
  · exact fun none => absurd target (none method path)
  · rw [own]
    intro outcome
    constructor
    · rintro rfl
      exact told
    · exact Told.unique target called told

theorem decided_of_target (executor : Executor) (requestId : Uuid)
    (target : Target job reading method path) :
    Decided executor requestId job reading (call executor requestId.toText job method path).1
      (call executor requestId.toText job method path).2 := by
  rcases shown : executor.credentials job with ⟨cause | token, asked⟩
  · have silent : call executor requestId.toText job method path =
        (.error (.token cause), (executor.credentials job).2 ++ []) := by
      simp [call, shown]
    rw [silent]
    exact decided_of_told target (by simp [shown]) (by simp) (by simp)
      (.tokenless target (by rw [shown]))
  · by_cases sendable : Sendable executor.base path token
    · have sent : call executor requestId.toText job method path =
          let request := request executor.base method path requestId.toText job token
          (ofAnswer (executor.network request),
            (executor.credentials job).2 ++ [⟨request, executor.network request⟩]) := by
        simp [call, shown, OutboundRequest.send, (isSendable_iff target.tenant).mpr sendable]
      rw [sent]
      refine decided_of_told target (by simp [shown, sendable]) (by simp) ?_ (.answered rfl)
      intro exchange member token' given
      obtain rfl := List.mem_singleton.mp member
      obtain rfl : token = token' := by simpa [shown] using given
      exact ⟨carries_request .., rfl⟩
    · have stuck : call executor requestId.toText job method path =
          (.error .unreachable, (executor.credentials job).2 ++ []) := by
        have refused :
            (request executor.base method path requestId.toText job token).isSendable = false := by
          rw [Bool.eq_false_iff, ne_eq, isSendable_iff target.tenant]
          exact sendable
        simp [call, shown, OutboundRequest.send, refused, ofAnswer]
      rw [stuck]
      exact decided_of_told target (by simp [shown, sendable]) (by simp) (by simp)
        (.unsendable target (by rw [shown]) sendable)

end Called

theorem decided_execute {σ : Type} [TimerStore σ] (executor : Executor) (requestId : Uuid)
    (job : JobData) (store : σ) :
    Decided executor requestId job (TimerStore.answer (.findById job.tenant job.timer) store).1
      (execute executor requestId.toText job store).1
        (execute executor requestId.toText job store).2.1 := by
  have course := execute_eq executor requestId.toText job store
  obtain ⟨outcome, refused⟩ | ⟨method, path, target⟩ :=
    refused_or_target job (TimerStore.answer (.findById job.tenant job.timer) store).1
  · rw [refused.verdict_eq, Prod.mk.injEq] at course
    rw [course.1, course.2]
    exact decided_of_refused executor requestId refused
  · rw [target.verdict_eq] at course
    have called : _ = call executor requestId.toText job method path := course
    have decided := decided_of_target executor requestId target
    rw [← called] at decided
    exact decided

/-- Every fire is decided in this way, whatever the store. A store in memory fails just for want of
a table, and else finds the record under the id of the job's timer. -/
theorem execute_decided {σ : Type} [TimerStore σ] (executor : Executor) (requestId : Uuid)
    (job : JobData) (store : σ) (memory : MemoryStore) :
    Decided executor requestId job (TimerStore.answer (.findById job.tenant job.timer) store).1
        (execute executor requestId.toText job store).1
          (execute executor requestId.toText job store).2.1 ∧
      (TimerStore.answer (.findById job.tenant job.timer) memory).1 =
        match memory.table? job.tenant with
        | none => .error (.tableMissing job.tenant)
        | some table => .ok ((table.row? job.timer).map (·.record)) := by
  refine ⟨decided_execute executor requestId job store, ?_⟩
  show (MemoryStore.answer (.findById job.tenant job.timer) memory).1 = _
  simp only [MemoryStore.answer, MemoryStore.read]
  cases memory.table? job.tenant <;> rfl

end Callback

end Horarium
