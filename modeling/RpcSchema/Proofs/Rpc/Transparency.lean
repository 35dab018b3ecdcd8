import RpcSchema.Proofs.Rpc.Envelopes
import RpcSchema.Rpc.Transport

/-!
# Calls that give what the command gave

A call through a transport returns what the command returns, as if no text lay in between. An
asynchronous command may have kept its reply, so between sending a call and receiving its result
anything may happen at the desk: other calls arrive, other replies are given or dropped, the state
changes. None of it reaches the reply of the call but what is meant for it, and of that only the
first, since a settled reply stays as it is.

## Main definitions

* `Desk.Step`, `Desk.after` — what happens at a desk
* `Desk.response?` — the response of a reply, once it is settled
* `Desk.Holds` — a desk with a reply to a request with some identification
* `Commands.returned` — a command asked directly: the state it leaves, and what it has returned once
  some steps were made

## Main results

* `Desk.response?_step`, `Desk.response?_after` — a reply has the first result that was given to it,
  under the identification of its request
* `Commands.run_eq` — a request leaves what its command leaves, and a reply for what it returns
* `Desk.wait_after_submit` — a request has the response that its command deserves
* `Transport.transparent` — a call gives what the command gave
-/

namespace RpcSchema

open Json (Fits Members)

variable {σ : Type}

/-! ### Replies over time -/

/-- The response of a reply to a request with an identification, once it is settled. -/
def Reply.response? (id : Option Json) : Reply → Option Response
  | .waiting _ => none
  | .given response => some response
  | .dropped => some (.ofResult (.error Desk.noReply) id)

/-- A reply that can still be given only to a request with an identification. -/
def Reply.IsFor (id : Option Json) : Reply → Prop
  | .waiting other => other = id
  | .given _ | .dropped => True

namespace Desk

/-- The response of the reply of a number to a request with an identification, once it is
settled. -/
def response? (desk : Desk σ) (number : Nat) (id : Option Json) : Option Response :=
  desk.replies[number]?.bind (Reply.response? id)

/-- The reply of a number is that to a request with an identification. -/
def Holds (desk : Desk σ) (number : Nat) (id : Option Json) : Prop :=
  ∃ reply, desk.replies[number]? = some reply ∧ reply.IsFor id

/-- Something that happens at a desk. -/
inductive Step (σ : Type)
  /-- a client sends a line -/
  | submit (session : Nat) (line : String)
  | complete (number : Nat) (result : CallResult)
  | abandon (number : Nat)
  /-- the server works on its state -/
  | become (state : σ)

/-- The result that a step gives to the reply of a number. -/
def Step.result? (number : Nat) : Step σ → Option CallResult
  | .complete n result => if n = number then some result else none
  | .abandon n => if n = number then some (.error noReply) else none
  | .submit _ _ | .become _ => none

/-- A desk after a step. -/
def step (commands : Commands σ) (desk : Desk σ) : Step σ → Desk σ
  | .submit session line => (desk.submitLine commands session line).1
  | .complete number result => desk.complete number result
  | .abandon number => desk.abandon number
  | .become state => { desk with state }

/-- A desk after some steps. -/
def after (desk : Desk σ) (commands : Commands σ) (steps : List (Step σ)) : Desk σ :=
  steps.foldl (step commands) desk

variable {desk : Desk σ} {number : Nat} {id : Option Json}

theorem wait_reply (number : Nat) (id : Option Json) :
    desk.wait (.reply number id) = desk.response? number id := by
  rw [wait, response?]
  cases desk.replies[number]? with
  | none => rfl
  | some reply => cases reply <;> rfl

/-! #### More replies -/

theorem holds_append_self (state : σ) {reply : Reply} (h : reply.IsFor id) :
    Holds ⟨state, desk.replies ++ [reply]⟩ desk.replies.length id :=
  ⟨reply, List.getElem?_concat_length, h⟩

theorem response?_append_self (state : σ) (reply : Reply) :
    response? ⟨state, desk.replies ++ [reply]⟩ desk.replies.length id = reply.response? id := by
  rw [response?, List.getElem?_concat_length, Option.bind_some]

theorem Holds.getElem?_append (h : desk.Holds number id) (more : List Reply) :
    (desk.replies ++ more)[number]? = desk.replies[number]? := by
  obtain ⟨reply, hreply, -⟩ := h
  exact List.getElem?_append_left (List.getElem?_eq_some_iff.mp hreply).1

/-- A line is answered at once or gets the next reply. -/
theorem submitLine_replies (commands : Commands σ) (session : Nat) (line : String) :
    (∃ state reply, (desk.submitLine commands session line).1 = ⟨state, desk.replies ++ [reply]⟩) ∨
      (desk.submitLine commands session line).1 = desk := by
  rw [submitLine]
  cases Request.parse? line with
  | some request => exact .inl ⟨_, _, rfl⟩
  | none => exact .inr rfl

/-! #### Settled replies -/

/-- A reply that waits is set, and nothing else is ever touched. -/
theorem settle_cases (n : Nat) (outcome : Option Json → Reply) :
    (∃ id, desk.replies[n]? = some (.waiting id) ∧
        desk.settle n outcome = { desk with replies := desk.replies.set n (outcome id) }) ∨
      (∀ id, desk.replies[n]? ≠ some (.waiting id)) ∧ desk.settle n outcome = desk := by
  rw [settle]
  split
  · rename_i id hwaiting
    exact .inl ⟨id, hwaiting, rfl⟩
  · rename_i hsettled
    exact .inr ⟨hsettled, rfl⟩

theorem length_settle (n : Nat) (outcome : Option Json → Reply) :
    (desk.settle n outcome).replies.length = desk.replies.length := by
  obtain ⟨id, -, heq⟩ | ⟨-, heq⟩ := desk.settle_cases n outcome
  · rw [heq, List.length_set]
  · rw [heq]

/-- Settling a reply gives it a response unless it has one, and leaves all others alone. -/
theorem Holds.settle (h : desk.Holds number id) (n : Nat) (outcome : Option Json → Reply)
    (houtcome : (outcome id).IsFor id) :
    (desk.settle n outcome).Holds number id ∧
      (desk.settle n outcome).response? number id =
        (desk.response? number id).or (if n = number then (outcome id).response? id else none) := by
  obtain ⟨reply, hreply, hfor⟩ := h
  rw [response?, response?, hreply, Option.bind_some]
  obtain ⟨other, hwaiting, heq⟩ | ⟨hsettled, heq⟩ := desk.settle_cases n outcome
  · by_cases hn : n = number
    · subst hn
      obtain rfl := Option.some.inj (hreply.symm.trans hwaiting)
      obtain rfl : other = id := hfor
      have hset : (desk.replies.set n (outcome other))[n]? = some (outcome other) :=
        List.getElem?_set_self (List.getElem?_eq_some_iff.mp hreply).1
      rw [heq, if_pos rfl]
      exact ⟨⟨_, hset, houtcome⟩, by rw [hset]; rfl⟩
    · have hset : (desk.replies.set n (outcome other))[number]? = some reply :=
        (List.getElem?_set_ne hn).trans hreply
      rw [heq, if_neg hn, Option.or_none]
      exact ⟨⟨reply, hset, hfor⟩, by rw [hset]; rfl⟩
  · rw [heq, hreply, Option.bind_some]
    refine ⟨⟨reply, hreply, hfor⟩, ?_⟩
    by_cases hn : n = number
    · subst hn
      cases reply with
      | waiting other => exact absurd hreply (hsettled other)
      | given response => rfl
      | dropped => rfl
    · rw [if_neg hn, Option.or_none]

/-! #### Steps -/

variable (commands : Commands σ)

/-- A step gives a reply a result unless it has one, if the step is meant for the reply. The reply
puts it under the identification of its request. -/
theorem Holds.step (h : desk.Holds number id) (s : Step σ) :
    (desk.step commands s).Holds number id ∧
      (desk.step commands s).response? number id =
        (desk.response? number id).or ((s.result? number).map fun r => .ofResult r id) := by
  cases s with
  | submit session line =>
    rw [Step.result?, Option.map_none, Option.or_none, Desk.step]
    rcases submitLine_replies commands session line with ⟨state, reply, hsubmit⟩ | hsubmit
    · rw [hsubmit, Holds, response?, h.getElem?_append]
      exact ⟨h, rfl⟩
    · rw [hsubmit]
      exact ⟨h, rfl⟩
  | complete n result =>
    obtain ⟨hholds, hresponse⟩ := h.settle n (fun id => .given (.ofResult result id)) trivial
    refine ⟨hholds, hresponse.trans (congrArg _ ?_)⟩
    rw [Step.result?]
    split <;> rfl
  | abandon n =>
    obtain ⟨hholds, hresponse⟩ := h.settle n (fun _ => .dropped) trivial
    refine ⟨hholds, hresponse.trans (congrArg _ ?_)⟩
    rw [Step.result?]
    split <;> rfl
  | become state => exact ⟨h, Option.or_none.symm⟩

/-- A reply that waits has the first result that some step gave it; one that is settled stays. -/
theorem Holds.after (h : desk.Holds number id) (steps : List (Step σ)) :
    (desk.after commands steps).response? number id =
      (desk.response? number id).or
        ((steps.findSome? (Step.result? number)).map fun r => .ofResult r id) := by
  induction steps generalizing desk with
  | nil => exact Option.or_none.symm
  | cons s rest ih =>
    obtain ⟨hholds, hresponse⟩ := h.step commands s
    rw [Desk.after, List.foldl_cons]
    refine (ih hholds).trans ?_
    rw [hresponse, Option.or_assoc, List.findSome?_cons]
    cases s.result? number <;> rfl

end Desk

/-! ### Commands asked directly -/

/-- What came of a promise once some steps were made. -/
def Promise.returned (number : Nat) (steps : List (Desk.Step σ)) : Promise → Option CallResult
  | .given result => some result
  | .kept => steps.findSome? (Desk.Step.result? number)
  | .dropped => some (.error Desk.noReply)

/-- The state after a handler ran, and what it has returned once some steps were made. -/
def Handler.returned (session number : Nat) (arguments : Members) (state : σ)
    (steps : List (Desk.Step σ)) : Handler σ → σ × Option CallResult
  | .sync run => ((run arguments state).1, some (run arguments state).2)
  | .stateful run => ((run session arguments state).1, some (run session arguments state).2)
  | .async run =>
    ((run number arguments state).1, (run number arguments state).2.returned number steps)

/-- The state after a command ran, and what it has returned once some steps were made. -/
def Commands.returned (commands : Commands σ) (session number : Nat) (command : String)
    (arguments : Members) (state : σ) (steps : List (Desk.Step σ)) : σ × Option CallResult :=
  match commands.lookup command with
  | none => (state, some (.error (.commandNotFound command)))
  | some handler => handler.returned session number arguments state steps

section

variable {commands : Commands σ} {session number : Nat} {command : String} {arguments : Members}
  {state : σ} {steps : List (Desk.Step σ)} {out : σ × CallResult}

/-- A command that is asked for is one of those that there are, or it is not found. -/
theorem Commands.returned_cases (commands : Commands σ) (command : String) :
    (∃ handler, (command, handler) ∈ commands ∧ ∀ session number arguments state steps,
      commands.returned session number command arguments state steps =
        handler.returned session number arguments state steps) ∨
      ∀ session number arguments state steps,
        commands.returned session number command arguments state steps =
          (state, some (.error (.commandNotFound command))) := by
  simp only [Commands.returned]
  cases hlookup : commands.lookup command with
  | none => exact .inr fun _ _ _ _ _ => rfl
  | some handler =>
    obtain ⟨before, later, hcommands, -⟩ := List.lookup_eq_some_iff.mp hlookup
    exact .inl ⟨handler, by simp [hcommands], fun _ _ _ _ _ => rfl⟩

theorem Commands.returned_sync {run : Members → σ → σ × CallResult}
    (hlookup : commands.lookup command = some (.sync run)) (hrun : run arguments state = out) :
    commands.returned session number command arguments state steps = (out.1, some out.2) := by
  simp only [Commands.returned, hlookup, Handler.returned, hrun]

theorem Commands.returned_stateful {run : Nat → Members → σ → σ × CallResult}
    (hlookup : commands.lookup command = some (.stateful run))
    (hrun : run session arguments state = out) :
    commands.returned session number command arguments state steps = (out.1, some out.2) := by
  simp only [Commands.returned, hlookup, Handler.returned, hrun]

/-- An asynchronous command that gives its reply before it returns is no different. -/
theorem Commands.returned_async {run : Nat → Members → σ → σ × Promise}
    (hlookup : commands.lookup command = some (.async run))
    (hrun : run number arguments state = (out.1, .given out.2)) :
    commands.returned session number command arguments state steps = (out.1, some out.2) := by
  simp only [Commands.returned, hlookup, Handler.returned, hrun, Promise.returned]

end

/-- A request leaves the state that its command leaves, and a reply that comes to have the result
of the command under the identification of the request. -/
theorem Commands.run_eq (commands : Commands σ) (session number : Nat) (request : Request)
    (state : σ) (steps : List (Desk.Step σ)) :
    let ran := commands.run session number request state
    let direct := commands.returned session number request.execute request.arguments state steps
    let respond (result : CallResult) : Response := .ofResult result request.id
    ran.1 = direct.1 ∧ ran.2.IsFor request.id ∧
      (ran.2.response? request.id).or
        ((steps.findSome? (Desk.Step.result? number)).map respond) = direct.2.map respond := by
  rw [Commands.run, Commands.returned]
  cases commands.lookup request.execute with
  | none => exact ⟨rfl, trivial, rfl⟩
  | some handler =>
    cases handler with
    | sync run => exact ⟨rfl, trivial, rfl⟩
    | stateful run => exact ⟨rfl, trivial, rfl⟩
    | async run =>
      refine ⟨rfl, ?_⟩
      show ((run number request.arguments state).2.reply request.id).IsFor _ ∧
        (((run number request.arguments state).2.reply request.id).response? _).or _ =
          ((run number request.arguments state).2.returned number steps).map _
      cases (run number request.arguments state).2 with
      | given result => exact ⟨trivial, rfl⟩
      | kept => exact ⟨rfl, rfl⟩
      | dropped => exact ⟨trivial, rfl⟩

/-- A request leaves the state that its command leaves, and comes to have a response with what the
command has returned. -/
theorem Desk.wait_after_submit (desk : Desk σ) (commands : Commands σ) (session : Nat)
    (request : Request) (steps : List (Step σ)) :
    let sent := desk.submit commands session request
    let direct := commands.returned session desk.replies.length request.execute request.arguments
      desk.state steps
    sent.1.state = direct.1 ∧ (sent.1.after commands steps).wait sent.2 =
      direct.2.map fun result => .ofResult result request.id := by
  obtain ⟨hstate, hfor, hresponse⟩ :=
    commands.run_eq session desk.replies.length request desk.state steps
  refine ⟨hstate, ?_⟩
  rw [submit, wait_reply, (holds_append_self _ hfor).after commands, response?_append_self]
  exact hresponse

/-- What a handler returns at once stays, whatever happens later. -/
theorem Handler.returned_of_nil {handler : Handler σ} {session number : Nat} {arguments : Members}
    {state : σ} {result : CallResult} (steps : List (Desk.Step σ)) :
    (handler.returned session number arguments state []).2 = some result →
      (handler.returned session number arguments state steps).2 = some result := by
  cases handler with
  | sync run => exact id
  | stateful run => exact id
  | async run =>
    show (run number arguments state).2.returned number [] = _ →
      (run number arguments state).2.returned number steps = _
    cases (run number arguments state).2 with
    | given value => exact id
    | kept => exact fun h => by cases h
    | dropped => exact id

theorem Commands.returned_of_nil {commands : Commands σ} {session number : Nat} {command : String}
    {arguments : Members} {state : σ} {result : CallResult} (steps : List (Desk.Step σ))
    (h : (commands.returned session number command arguments state []).2 = some result) :
    (commands.returned session number command arguments state steps).2 = some result := by
  obtain ⟨handler, -, heq⟩ | heq := commands.returned_cases command
  · rw [heq] at h ⊢
    exact handler.returned_of_nil steps h
  · rw [heq] at h ⊢
    exact h

/-! ### Calls -/

/-- The result of a response comes back from its text. -/
theorem Transport.resultOf_text {result : CallResult} (h : FitsResult result) :
    resultOf (Response.ofResult result none).text = result := by
  rw [resultOf, Response.parse?_text h isIdentification_none]
  cases result with
  | ok value => rfl
  | error error => exact congrArg Except.error error.ofWire_data

namespace Transport

variable (commands : Commands σ) (desk : Desk σ) (session : Nat) (command : String)

/-- A call is the submission of its request. -/
theorem send_eq {arguments : Members} (h : Fits partDepth (.object arguments)) :
    send desk commands session command arguments =
      desk.submit commands session ⟨command, arguments, none⟩ := by
  rw [send, Desk.submitLine, Request.parse?_text h isIdentification_none]

/-- The result in a response is received. -/
theorem receive_eq {pending : Pending} {result : Option CallResult}
    (hwait : desk.wait pending = result.map fun r => .ofResult r none)
    (h : ∀ r ∈ result, FitsResult r) : receive desk pending = result := by
  rw [receive, hwait, Option.map_map]
  cases result with
  | none => rfl
  | some result => exact congrArg some (resultOf_text (h result rfl))

/-- A call submits its request, and is answered with what the command returns at once. -/
theorem call_eq {arguments : Members} (harguments : Fits partDepth (.object arguments))
    (hresult : ∀ result ∈ (commands.returned session desk.replies.length command arguments
      desk.state []).2, FitsResult result) :
    call desk commands session command arguments =
      ((desk.submit commands session ⟨command, arguments, none⟩).1,
        (commands.returned session desk.replies.length command arguments desk.state []).2) := by
  obtain ⟨-, hwait⟩ := desk.wait_after_submit commands session ⟨command, arguments, none⟩ []
  simp only [call, send_eq commands desk session command harguments]
  exact congrArg _ (receive_eq _ hwait hresult)

/-- A call leaves the state that its command leaves, and is answered with what the command returns:
at once if it does so at once, and otherwise as soon as it does, whatever else happens by then. -/
theorem transparent (arguments : Members) (steps : List (Desk.Step σ))
    (harguments : Fits partDepth (.object arguments))
    (hresult : ∀ result ∈ (commands.returned session desk.replies.length command arguments
      desk.state steps).2, FitsResult result) :
    let returned := commands.returned session desk.replies.length command arguments desk.state
    let called := call desk commands session command arguments
    let pending := (send desk commands session command arguments).2
    called.1.state = (returned steps).1 ∧ called.2 = (returned []).2 ∧
      receive (called.1.after commands steps) pending = (returned steps).2 := by
  intro returned called pending
  have hpending : pending = .reply desk.replies.length none :=
    congrArg Prod.snd (send_eq commands desk session command harguments)
  have hcalled : called = (_, (returned []).2) :=
    call_eq commands desk session command harguments fun result hnow =>
      hresult result (Commands.returned_of_nil steps hnow)
  obtain ⟨hstate, hwait⟩ :=
    desk.wait_after_submit commands session ⟨command, arguments, none⟩ steps
  rw [hcalled, hpending]
  exact ⟨hstate, rfl, receive_eq _ hwait hresult⟩

/-- A reply that is given after another call was made and answered, and then once more. -/
theorem transparent_late :
    let commands : Commands Nat := [("later", .async fun _ _ count => (count + 1, .kept))]
    let arguments : Members := [("delay", .float 2.5)]
    let result : CallResult := .error (.generic "CommandNotFound" "No such file")
    let steps : List (Desk.Step Nat) :=
      [.submit 1 (Request.text ⟨"later", [], none⟩), .complete 1 (.ok .null),
        .complete 0 result, .complete 0 (.ok .null)]
    Fits partDepth (.object arguments) ∧ FitsResult result ∧
      (call ⟨0, []⟩ commands 0 "later" arguments).1.state = 1 ∧
      (call ⟨0, []⟩ commands 0 "later" arguments).2 = none ∧
      receive ((call ⟨0, []⟩ commands 0 "later" arguments).1.after commands steps)
        (send ⟨0, []⟩ commands 0 "later" arguments).2 = some result := by
  intro commands arguments result steps
  have harguments : Fits partDepth (.object arguments) :=
    .object (by decide) (List.forall_mem_singleton.mpr (.float rfl))
  have hresult : FitsResult result := nofun
  have hleft : (commands.returned 0 0 "later" arguments 0 steps).1 = 1 := rfl
  have hgiven : (commands.returned 0 0 "later" arguments 0 steps).2 = some result := rfl
  obtain ⟨hstate, hnow, hlater⟩ :=
    transparent commands ⟨0, []⟩ 0 "later" arguments steps harguments fun r hr =>
      Option.some.inj (hgiven.symm.trans hr) ▸ hresult
  exact ⟨harguments, hresult, hstate.trans hleft, hnow, hlater.trans hgiven⟩

end Transport

end RpcSchema
