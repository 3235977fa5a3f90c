/-
**Running a session.**

A step leaves a session behind, with an answer or a fault, and with what was journalled meanwhile.
The session goes on after a fault.

Main definitions:

* `PlainTx.Session.Effect` — what a command leaves behind;
* `PlainTx.Session.perform` — a command;
* `PlainTx.Session.Reply`, `PlainTx.Session.step` — a step, and the reply to it;
* `PlainTx.Session.run` — several steps.
-/

import PlainTx.Session.Command

set_option relaxedAutoImplicit false
set_option autoImplicit false

namespace PlainTx.Session

/-- What a command leaves behind: the session, the answer with the number of the thing that may get
a name, and the journal. -/
structure Effect where
  session : Session
  result : Except Fault (Answer × Option Nat)
  journal : List Event := []

namespace Effect

/-- A command that fails and changes nothing. -/
def fail (s : Session) (fault : Fault) : Effect := { session := s, result := .error fault }

/-- A command that answers and changes nothing. -/
def answer (s : Session) (a : Answer) : Effect := { session := s, result := .ok (a, none) }

/-- A command that makes a thing. -/
def make (s : Session) (thing : Thing) (a : Answer) (journal : List Event) : Effect :=
  let (s, number) := s.add thing
  { session := s, result := .ok (a, some number), journal }

/-- A command that results in a plain value, which is also its answer. -/
def value (s : Session) (x : Value) : Effect := make s (.value x) (.value x) []

/-- A command that goes on with a result, or fails with it. -/
def andThen {α : Type} (s : Session) (result : Except Fault α) (next : α → Effect) : Effect :=
  match result with
  | .ok a => next a
  | .error fault => fail s fault

/-- A command that makes a transaction. -/
def transaction (s : Session) (journal : Transaction → List Event)
    (result : Except Fault Transaction) : Effect :=
  andThen s result fun t => make s (.transaction t) (.snapshot t) (journal t)

/-- A command that makes the recorded outcome of an attempt at a transaction. -/
def outcome (s : Session) (journal : Transaction → List Event)
    (result : Except Fault Transaction) : Effect :=
  andThen s (capture result) fun o =>
    match o with
    | .error fault => make s (.outcome (.error fault)) (.outcome (.error fault)) []
    | .ok t =>
      let (s, number) := s.add (.transaction t)
      make s (.outcome (.ok number)) (.outcome (.ok t)) (journal t)

/-- An action on the transaction of the given number, and its answer. -/
def ofAction {α : Type} (s : Session) (number : Nat) (t : Transaction) (action : Action α)
    (answer : α → Value) : Effect :=
  let trace := action t
  let s := s.replace number (.transaction trace.transaction)
  match trace.result with
  | .error fault => { session := s, result := .error fault, journal := trace.journal }
  | .ok a => { value s (answer a) with journal := trace.journal }

end Effect

/-! ### Commands -/

variable [Stack]

/-- The private key of an untyped value, which has to be bytes. -/
def readKey : Value → Except Fault PrivateKey
  | .bytes b =>
    match PrivateKey.ofBytes? b with
    | some key => .ok key
    | none => .error .invalidKey
  | _ => .error .invalidKey

/-- The private key of an untyped value, if there is one. -/
def readOptionalKey : Value → Except Fault (Option PrivateKey)
  | .none => .ok none
  | x => (readKey x).map some

/-- The name that stands for the thing itself among the arguments of an operation on it. -/
def ownName : String := "self"

/-- The arguments of an operation on a thing: none of them has the name of the thing itself. -/
def checkArguments (fields : List (String × Value)) : Except Fault Unit :=
  if (fields.lookup ownName).isSome then .error .wrongArguments else .ok ()

/-- A command on a transaction. -/
def performTransaction (scheme : Scheme PrivateKey) (s : Session) (number : Nat) (t : Transaction)
    (command : TransactionCommand) : Effect :=
  let act {α : Type} (action : Action α) (answer : α → Value) : Effect :=
    .ofAction s number t action answer
  match command with
  | .copy overrides =>
    .andThen s (s.resolveFields overrides) fun overrides =>
      .andThen s (checkArguments overrides) fun _ =>
        .transaction s Event.ofCreated (t.copy s.setting overrides)
  | .append signatures =>
    .andThen s (s.resolve signatures) fun x => act (Transaction.append x) fun _ => .none
  | .sign key =>
    .andThen s (s.resolve key >>= readKey) fun key =>
      act (Transaction.sign scheme key) .signature
  | .combine raws =>
    .andThen s (s.resolve raws) fun raws =>
      act (Transaction.combine s.detailed raws) fun form => .text (Hex.text form)
  | .get name =>
    match Transaction.Property.ofName? name with
    | none => .fail s .noSuchPart
    | some property => act (Transaction.get property) id
  | .encode => act Transaction.encode .bytes
  | .encodeForSigning => act Transaction.encodeForSigning .bytes
  | .message => act Transaction.messageForSigning .bytes
  | .sender => act (Transaction.recoverSender scheme) .text
  | .captureSender =>
    .andThen s (capture (t.sender scheme)) fun o => .answer s (.sender o)
  | .validate forSigning =>
    .andThen s (t.check forSigning) fun _ => .answer s .nothing

/-- A command on a builder. -/
def performBuilder (s : Session) (number : Nat) (b : Builder) : BuilderCommand → Effect
  | .set field x =>
    .andThen s (s.resolve x) fun x =>
      match Builder.Field.ofName? field with
      | none => .fail s .noSuchPart
      | some field =>
        .andThen s (b.set field x) fun b =>
          { session := s.replace number (.builder b)
            result := .ok (.value (.bool true), some number) }
  | .build => .transaction s Event.ofCreated (b.build s.setting)
  | .finalize => .outcome s Event.ofCreated (b.build s.setting)

/-- A slot after it was filled with an untyped value, with what was replaced.  Filling it with no
value empties it. -/
def fillSlot (slot : Slot) (x : Value) : Except Fault (Thing × Value) := do
  let replaced := (slot.signature.map Value.signature).getD .none
  match x with
  | .signature sig => return (.slot (← slot.fill sig).1, replaced)
  | x =>
    slot.check
    match x with
    | .none => return (.slot { slot with signature := none }, replaced)
    | x => return (.misfilled slot x, replaced)

/-- A command on a slot. -/
def performSlot (s : Session) (number : Nat) (slot : Slot) : SlotCommand → Effect
  | .fill signature =>
    .andThen s (s.resolve signature) fun x =>
      .andThen s (fillSlot slot x) fun (thing, replaced) => .value (s.replace number thing) replaced
  | .check => .andThen s slot.check fun _ => .answer s .nothing
  | .get => .answer s (.held (slot.signatures.map .signature))

/-- A command on a slot that holds no signature: it is never available, and whether it holds a
placeholder cannot be told. -/
def performMisfilled (s : Session) (slot : Slot) (x : Value) : SlotCommand → Effect
  | .get => .answer s (.held [x])
  | _ => .fail s (if slot.policy = .reject then .occupied slot.owner else .noSuchPart)

/-- The transaction of an outcome, or the fault it holds. -/
def unwrap (s : Session) (o : Except Fault Nat) : Effect :=
  match o with
  | .error fault => .fail s fault
  | .ok number =>
    match s.things[number]? with
    | some (.transaction t) => { session := s, result := .ok (.snapshot t, some number) }
    | _ => .fail s .noSuchPart

/-- The transaction of a template, signed by the key if one is given. -/
def signedTemplate (scheme : Scheme PrivateKey) (s : Session) (fields : List (String × Value))
    (key : Option PrivateKey) : Effect :=
  .andThen s (Transaction.template s.setting fields) fun t =>
    match key with
    | none => .make s (.transaction t) (.snapshot t) []
    | some key =>
      let trace := Transaction.sign scheme key t
      match trace.result with
      | .error fault => { session := s, result := .error fault, journal := trace.journal }
      | .ok _ =>
        .make s (.transaction trace.transaction) (.snapshot trace.transaction) trace.journal

/-- The input of a reading, and what is chosen for its policy. -/
def readingOf (s : Session) (raw policy : Operand) : Except Fault (Value × Option Policy) := do
  return (← s.resolve raw, ← Policy.ofValue (← s.resolve policy))

/-- A command, on the thing of the given name if it needs one. -/
def perform (scheme : Scheme PrivateKey) (s : Session) (target : String) :
    Command → Effect
  | .changeSetting text =>
    .andThen s ((Setting.given text).mapError .setting) fun setting =>
      .answer { s with setting } .nothing
  | .defaultPolicy => .andThen s (Policy.ofSetting s.setting) fun p => .value s (.policy p)
  | .newBuilder => .make s (.builder {}) .nothing []
  | .newSlot policy owner =>
    match Policy.ofText? policy with
    | none => .fail s .noSuchPolicy
    | some policy => .make s (.slot { policy, owner }) .nothing []
  | .create fields =>
    .andThen s (s.resolveFields fields) fun fields =>
      .transaction s Event.ofCreated do Transaction.create s.setting (← Arguments.ofFields fields)
  | .template fields key =>
    .andThen s (s.resolveFields fields) fun fields =>
      .andThen s (s.resolve key >>= readOptionalKey) fun key =>
        signedTemplate scheme s fields key
  | .decode raw policy =>
    .andThen s (s.readingOf raw policy) fun (raw, policy) =>
      .transaction s Event.ofDecoded (Transaction.decodeWith s.setting policy raw)
  | .tryDecode raw policy =>
    .andThen s (s.readingOf raw policy) fun (raw, policy) =>
      .outcome s Event.ofDecoded (Transaction.decodeWith s.setting policy raw)
  | .unwrap =>
    .andThen s (s.find target) fun (_, thing) =>
      match thing with
      | .outcome o => unwrap s o
      | _ => .fail s .noSuchPart
  | .onTransaction command =>
    .andThen s (s.transaction target) fun (number, t) =>
      performTransaction scheme s number t command
  | .onBuilder command =>
    .andThen s (s.builder target) fun (number, b) => performBuilder s number b command
  | .onSlot command =>
    .andThen s (s.find target) fun (number, thing) =>
      match thing with
      | .slot slot => performSlot s number slot command
      | .misfilled slot x => performMisfilled s slot x command
      | _ => .fail s .noSuchPart
  | .compare left right checkSignature =>
    .andThen s (s.transaction left) fun (number, t) =>
      .andThen s (s.subject right) fun right =>
        match right with
        | .transaction u =>
          .ofAction s number t (Transaction.compare s.detailed u checkSignature) .bool
        | .other _ => .answer s (.value (.bool false))
  | .difference left right checkSignature =>
    .andThen s (s.transaction left) fun (_, t) =>
      .andThen s (s.transaction right) fun (_, u) =>
        .answer s (.difference (t.difference u checkSignature))
  | .claimEqual expected actual =>
    .andThen s (s.subject expected) fun expected =>
      .andThen s (s.subject actual) fun actual =>
        .andThen s (Subject.claimEqual expected actual) fun _ => .answer s .nothing
  | .requireEqual left right leftName rightName =>
    .andThen s (s.subject left) fun left =>
      .andThen s (s.subject right) fun right =>
        .andThen s (Subject.requireEqual left right leftName rightName) fun _ =>
          .answer s .nothing

/-! ### Steps -/

/-- The reply to a step: the answer or the fault, what the slot of the thing it worked on holds
afterwards, and the journal. -/
structure Reply where
  result : Except Fault Answer
  after : Option (List Value)
  journal : List Event

/-- A step: its command, and then the name for what it results in. -/
def step (scheme : Scheme PrivateKey) (s : Session) (x : Step) : Reply × Session :=
  let effect := perform scheme s (x.target.getD "") x.command
  let s' :=
    match effect.result, x.keep with
    | .ok (_, some number), some name => effect.session.bind name number
    | _, _ => effect.session
  ({ result := effect.result.map Prod.fst
     after := x.target.bind s'.held?
     journal := effect.journal }, s')

/-- Several steps, one after the other. -/
def run (scheme : Scheme PrivateKey) (s : Session) : List Step → List Reply
  | [] => []
  | x :: rest =>
    let (reply, s') := s.step scheme x
    reply :: run scheme s' rest

end PlainTx.Session
