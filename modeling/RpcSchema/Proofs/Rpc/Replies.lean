import RpcSchema.Proofs.Rpc.Transparency

/-!
# Every line has a reply of its own

A server answers each line that it is sent with one object, which has a result or an error and
carries the identification that the line came with. What an asynchronous command returns may come
late, and other lines are sent and other replies given in the meantime; nothing of that gets into
the reply of the line.

What a line deserves is stated here without responses that wait: its command, asked directly when
the line arrived, and the identification read off the text. That the desk gives this, for any lines
and any order in which their results come in, is the main result.

## Main definitions

* `Request.idIn?` — the identification in the text of a request
* `Desk.answer?` — the response that a line deserves, once some steps were made
* `Desk.pendings` — what is submitted in each of some steps
* `Response.WrittenAs` — the object of a response

## Main results

* `Request.id_eq_idIn?` — a request has the identification of its text
* `Desk.wait_submitLine` — a line has the response that it deserves
* `Desk.submitLine_of_malformed`, `Desk.submitLine_of_returned` — at once, where it is no request or
  its command returns at once
* `Desk.answer?_eq_none_iff` — it has none only as long as its command keeps the reply
* `Desk.number_ne` — no two lines wait for the same reply
* `Desk.own_replies` — so each of many lines has the response that it deserves
-/

namespace RpcSchema

open Json (Members Tree)

variable {σ : Type}

/-! ### Identifications -/

/-- The identification in the text of a request: its part for it, unless that is absent or
`null`. -/
def Request.idIn? (line : String) : Option Json := do
  let parts ← parts? [["execute"], ["arguments", "data"], ["id"]] (← Tree.parse? line)
  let id ← anyPart? (← parts[2]?.join)
  if id.isNull then none else some id

/-- A part that may be absent or `null` is the value that it has, if it is neither. -/
theorem eq_of_optionalPart {part : Option Tree} {id : Option Json}
    (h : optionalPart some part = some id) :
    id = part.bind fun part => (anyPart? part).bind fun id =>
      if id.isNull then none else some id := by
  cases part with
  | none => exact (Option.some.inj h).symm
  | some part =>
    rw [optionalPart, partOr] at h
    cases hvalue : anyPart? part with
    | none => simp [hvalue] at h
    | some value =>
      rw [hvalue] at h
      rw [Option.bind_some, hvalue, Option.bind_some]
      cases value <;> exact (Option.some.inj h).symm

theorem Request.id_eq_idIn? {line : String} {request : Request}
    (h : Request.parse? line = some request) : request.id = Request.idIn? line := by
  obtain ⟨tree, htree, h⟩ := Option.bind_eq_some_iff.mp h
  obtain ⟨parts, hparts, h⟩ := Option.bind_eq_some_iff.mp h
  split at h
  · rename_i execute arguments id
    obtain ⟨name, -, h⟩ := Option.bind_eq_some_iff.mp h
    obtain ⟨members, -, h⟩ := Option.bind_eq_some_iff.mp h
    obtain ⟨found, hfound, h⟩ := Option.bind_eq_some_iff.mp h
    obtain rfl := Option.some.inj h
    rw [Request.idIn?, htree, Option.bind_eq_bind, Option.bind_some, hparts]
    exact eq_of_optionalPart hfound
  · cases h

/-! ### Objects -/

/-- A text that is one object, with the outcome of a response as its result or its error, whichever
it is, and with its identification if there is one. -/
def Response.WrittenAs (response : Response) (text : String) : Prop :=
  ∃ members : Members, text = (Json.object members).compact ∧ (members.map (·.1)).Nodup ∧
    members.get? "return" = (match response.outcome with
      | .result value => some value
      | .error _ => none) ∧
    members.get? "error" = (match response.outcome with
      | .result _ => none
      | .error error => some error.toJson) ∧
    members.get? "id" = response.id

theorem Response.writtenAs_text (response : Response) : response.WrittenAs response.text := by
  obtain ⟨outcome, id⟩ := response
  refine ⟨outcome.member :: idMembers id, rfl, ?_, ?_, ?_, ?_⟩
  · cases outcome <;> cases id <;> simp [Outcome.member, idMembers]
  all_goals cases outcome <;> cases id <;> rfl

/-- The number of the reply that a line waits for, if it is a request. -/
def Pending.number? : Pending → Option Nat
  | .ready _ => none
  | .reply number _ => some number

namespace Desk

/-! ### One line -/

/-- The response that a line deserves once some steps were made: it carries what the command of the
line returns, asked directly when the line arrives, and the identification in the line. The response
to a line that is no request is there at once. -/
def answer? (desk : Desk σ) (commands : Commands σ) (session : Nat) (line : String)
    (steps : List (Step σ)) : Option Response :=
  match Request.parse? line with
  | none => some (.ofResult (.error (malformed line)) none)
  | some request =>
    (commands.returned session desk.replies.length request.execute request.arguments desk.state
      steps).2.map fun result => .ofResult result (Request.idIn? line)

variable (desk : Desk σ) (commands : Commands σ) (session : Nat) (line : String)

/-- A line has the response that it deserves, whatever happens in the meantime. -/
theorem wait_submitLine (steps : List (Step σ)) :
    ((desk.submitLine commands session line).1.after commands steps).wait
        (desk.submitLine commands session line).2 =
      desk.answer? commands session line steps := by
  rw [submitLine, answer?]
  cases hrequest : Request.parse? line with
  | none => rfl
  | some request =>
    rw [← Request.id_eq_idIn? hrequest]
    exact (desk.wait_after_submit commands session request steps).2

/-- A line that is no request is answered at once and leaves the desk as it was. -/
theorem submitLine_of_malformed (hrequest : Request.parse? line = none) :
    desk.submitLine commands session line =
      (desk, .ready (.ofResult (.error (malformed line)) none)) := by
  rw [submitLine, hrequest]

/-- A request whose command returns at once is answered at once with what the command returned, and
leaves the state that the command left. -/
theorem submitLine_of_returned {desk : Desk σ} {commands : Commands σ} {session : Nat}
    {line : String} {request : Request} {after : σ} {result : CallResult}
    (hrequest : Request.parse? line = some request)
    (hreturned : commands.returned session desk.replies.length request.execute request.arguments
      desk.state [] = (after, some result)) :
    let sent := desk.submitLine commands session line
    sent.1.state = after ∧ sent.1.wait sent.2 = some (.ofResult result request.id) := by
  obtain ⟨hstate, hwait⟩ := desk.wait_after_submit commands session request []
  rw [hreturned] at hstate hwait
  rw [submitLine, hrequest]
  exact ⟨hstate, hwait⟩

/-- A line that is handled has the response that it deserves at once. -/
theorem handleLine_snd : (desk.handleLine commands session line).2 =
    (desk.answer? commands session line []).map Response.text :=
  congrArg (Option.map Response.text) (desk.wait_submitLine commands session line [])

/-- A reply is kept: its command is asynchronous and returned without giving or dropping it. -/
def Keeps : Prop :=
  ∃ request run, Request.parse? line = some request ∧
    commands.lookup request.execute = some (.async run) ∧
    (run desk.replies.length request.arguments desk.state).2 = .kept

/-- A line has no response only as long as its command keeps the reply. -/
theorem answer?_eq_none_iff (steps : List (Step σ)) :
    desk.answer? commands session line steps = none ↔ desk.Keeps commands line ∧
      ∀ step ∈ steps, step.result? desk.replies.length = none := by
  rw [answer?, Keeps]
  cases hrequest : Request.parse? line with
  | none => simp
  | some request =>
    rw [Option.map_eq_none_iff, Commands.returned]
    cases hlookup : commands.lookup request.execute with
    | none => simp [hlookup]
    | some handler =>
      cases handler with
      | sync run => simp [Handler.returned, hlookup]
      | stateful run => simp [Handler.returned, hlookup]
      | async run =>
        cases hpromise : (run desk.replies.length request.arguments desk.state).2 <;>
          simp [Handler.returned, Promise.returned, hlookup, hpromise, List.findSome?_eq_none_iff]

section

variable {desk : Desk σ} {commands : Commands σ} {session : Nat} {line : String}
  {steps : List (Step σ)} {response : Response}

/-- The response to a request carries the identification in its line. -/
theorem id_of_mem_answer? (h : response ∈ desk.answer? commands session line steps)
    (hline : Request.parse? line ≠ none) : response.id = Request.idIn? line := by
  rw [answer?] at h
  cases hrequest : Request.parse? line with
  | none => exact absurd hrequest hline
  | some request =>
    rw [hrequest] at h
    obtain ⟨result, -, rfl⟩ := Option.mem_map.mp h
    exact Response.id_ofResult

/-- A line that is no request has an error for its response, which carries no identification. -/
theorem parsingError_of_mem_answer? (h : response ∈ desk.answer? commands session line steps)
    (hline : Request.parse? line = none) :
    response.id = none ∧ ∃ data, response.outcome = .error ⟨"JSONParsing", data⟩ := by
  rw [answer?, hline] at h
  obtain rfl := Option.some.inj h
  exact ⟨rfl, _, rfl⟩

end

/-! ### Many lines -/

/-- What is submitted in a step, if a line is sent in it. -/
def pending? : Step σ → Option Pending
  | .submit session line => some (desk.submitLine commands session line).2
  | .complete _ _ | .abandon _ | .become _ => none

/-- What is submitted in each of some steps. -/
def pendings (desk : Desk σ) : List (Step σ) → List (Option Pending)
  | [] => []
  | s :: rest => desk.pending? commands s :: (desk.step commands s).pendings rest

variable {desk} {commands}

theorem getElem?_pendings (steps : List (Step σ)) (i : Nat) :
    (desk.pendings commands steps)[i]? =
      steps[i]?.map ((desk.after commands (steps.take i)).pending? commands) := by
  induction steps generalizing desk i with
  | nil => rfl
  | cons s rest ih =>
    cases i with
    | zero => rfl
    | succ i => exact ih i

/-- A run is cut at one of its steps. -/
theorem after_of_getElem? {steps : List (Step σ)} {i : Nat} {s : Step σ} (h : steps[i]? = some s) :
    desk.after commands steps =
      ((desk.after commands (steps.take i)).step commands s).after commands
        (steps.drop (i + 1)) := by
  obtain ⟨hi, rfl⟩ := List.getElem?_eq_some_iff.mp h
  have hsteps := List.take_append_drop i steps
  rw [List.drop_eq_getElem_cons hi] at hsteps
  exact (congrArg (desk.after commands) hsteps.symm).trans List.foldl_append

/-- A step only adds replies. -/
theorem length_le_step (s : Step σ) :
    desk.replies.length ≤ (desk.step commands s).replies.length := by
  cases s with
  | submit session line =>
    rw [step]
    rcases submitLine_replies commands session line with ⟨state, reply, hsubmit⟩ | hsubmit
    · rw [hsubmit, List.length_append]
      exact Nat.le_add_right _ _
    · rw [hsubmit]
  | complete n result => exact (length_settle n _).ge
  | abandon n => exact (length_settle n _).ge
  | become state => exact le_rfl

theorem length_le_after (steps : List (Step σ)) :
    desk.replies.length ≤ (desk.after commands steps).replies.length := by
  induction steps generalizing desk with
  | nil => exact le_rfl
  | cons s rest ih => exact (length_le_step s).trans ih

/-- The reply of a line is the next one. -/
theorem number_pending? {s : Step σ} {pending : Pending} {n : Nat}
    (h : desk.pending? commands s = some pending) (hn : pending.number? = some n) :
    n = desk.replies.length ∧ n < (desk.step commands s).replies.length := by
  cases s with
  | submit session line =>
    obtain rfl := Option.some.inj h
    rw [step]
    rw [submitLine] at hn ⊢
    cases hrequest : Request.parse? line with
    | none =>
      rw [hrequest] at hn
      cases hn
    | some request =>
      rw [hrequest] at hn
      obtain rfl := Option.some.inj hn
      exact ⟨rfl, by simp [submit]⟩
  | complete n result => cases h
  | abandon n => cases h
  | become state => cases h

/-- A line that is sent later has a later reply. -/
theorem number_lt {steps : List (Step σ)} {i j m n : Nat} {first second : Pending} (hlt : i < j)
    (hfirst : (desk.pendings commands steps)[i]? = some (some first))
    (hsecond : (desk.pendings commands steps)[j]? = some (some second))
    (hm : first.number? = some m) (hn : second.number? = some n) : m < n := by
  rw [getElem?_pendings, Option.map_eq_some_iff] at hfirst hsecond
  obtain ⟨s, hs, hfirst⟩ := hfirst
  obtain ⟨t, -, hsecond⟩ := hsecond
  have hcut : (steps.take j)[i]? = some s := (List.getElem?_take_of_lt hlt).trans hs
  obtain ⟨rfl, -⟩ := number_pending? hsecond hn
  rw [after_of_getElem? hcut, List.take_take, min_eq_left hlt.le]
  exact (number_pending? hfirst hm).2.trans_le (length_le_after _)

/-- No other line has the number of a line's reply. -/
theorem number_ne {steps : List (Step σ)} {i j : Nat} {first second : Pending} (hne : j ≠ i)
    (hfirst : (desk.pendings commands steps)[i]? = some (some first))
    (hsecond : (desk.pendings commands steps)[j]? = some (some second)) :
    ∀ number ∈ first.number?, number ∉ second.number? := by
  intro number hm hn
  rcases Nat.lt_or_gt_of_ne hne with hlt | hlt
  · exact (number_lt hlt hsecond hfirst hn hm).false
  · exact (number_lt hlt hfirst hsecond hm hn).false

/-- Among any steps, a line that is sent gets a reply of its own. The response is the one that the
line deserves, whatever other lines, results and dropped replies come before or after it; it is one
object with a result or an error, and has the identification in the line, or none and a parsing
error if the line is no request. There is no response as long as the command keeps the reply. -/
theorem own_replies (desk : Desk σ) (commands : Commands σ) (steps : List (Step σ))
    {i session : Nat} {line : String} (h : steps[i]? = some (.submit session line)) :
    let before := desk.after commands (steps.take i)
    let later := steps.drop (i + 1)
    let response := before.answer? commands session line later
    ∃ pending, (desk.pendings commands steps)[i]? = some (some pending) ∧
      (desk.after commands steps).wait pending = response ∧
      (before.handleLine commands session line).2 =
        (before.answer? commands session line []).map Response.text ∧
      (response = none ↔ before.Keeps commands line ∧
        ∀ step ∈ later, step.result? before.replies.length = none) ∧
      (∀ r ∈ response, r.WrittenAs r.text ∧
        (Request.parse? line ≠ none → r.id = Request.idIn? line) ∧
        (Request.parse? line = none → r.id = none ∧
          ∃ data, r.outcome = .error ⟨"JSONParsing", data⟩)) ∧
      ∀ j other, j ≠ i → (desk.pendings commands steps)[j]? = some (some other) →
        ∀ number ∈ pending.number?, number ∉ other.number? := by
  intro before later response
  have hpending : (desk.pendings commands steps)[i]? =
      some (some (before.submitLine commands session line).2) := by
    rw [getElem?_pendings, h]
    rfl
  have hafter : desk.after commands steps =
      (before.submitLine commands session line).1.after commands later :=
    after_of_getElem? h
  refine ⟨_, hpending, ?_, before.handleLine_snd commands session line,
    before.answer?_eq_none_iff commands session line later, ?_, ?_⟩
  · rw [hafter]
    exact before.wait_submitLine commands session line later
  · intro r hr
    exact ⟨r.writtenAs_text, id_of_mem_answer? hr, parsingError_of_mem_answer? hr⟩
  · intro j other hne hother
    exact number_ne hne hpending hother

/-- A request whose command keeps the reply to lose it later, with another request in between. -/
theorem own_replies_abandoned :
    let commands : Commands Nat := [("later", .async fun _ _ count => (count + 1, .kept))]
    let line (id : Json) : String := Request.text ⟨"later", [], some id⟩
    let steps : List (Step Nat) :=
      [.submit 0 (line (.string "a")), .submit 1 (line (.string "b")), .complete 1 (.ok .null),
        .abandon 0]
    steps[0]? = some (.submit 0 (line (.string "a"))) ∧
      ∃ pending, (pendings commands ⟨0, []⟩ steps)[0]? = some (some pending) ∧
        (after ⟨0, []⟩ commands steps).wait pending =
          some (.ofResult (.error noReply) (some (.string "a"))) := by
  intro commands line steps
  have hstep : steps[0]? = some (.submit 0 (line (.string "a"))) := rfl
  obtain ⟨pending, hpending, hwait, -⟩ := own_replies ⟨0, []⟩ commands steps hstep
  have hid : IsIdentification (some (.string "a")) := by
    rintro _ ⟨rfl⟩
    exact ⟨.string "a", nofun⟩
  have hparse : Request.parse? (line (.string "a")) = some ⟨"later", [], some (.string "a")⟩ :=
    Request.parse?_text (.object .nil nofun) hid
  refine ⟨hstep, pending, hpending, hwait.trans ?_⟩
  rw [answer?, hparse]
  exact congrArg (some <| Response.ofResult (.error noReply) ·) (Request.id_eq_idIn? hparse).symm

end Desk

end RpcSchema
