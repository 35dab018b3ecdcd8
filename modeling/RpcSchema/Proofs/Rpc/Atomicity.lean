import RpcSchema.Proofs.Rpc.Replies
import RpcSchema.Rpc.Attempt

/-!
# Commands that fail without a trace

A command is atomic if it replies before it returns and leaves the state as it was whenever the
reply is an error. Where all commands of a server are, every line is answered at once, and one that
is answered with an error was as good as not sent: a line that is no request and one that asks for
an unknown command have no state to change, and what is left are the commands.

The error is looked for in the text of the reply, which is all that a client sees. No reply can be
taken for an error that is none, since the first key of its object tells.

## Main definitions

* `Response.IsError` — texts of responses with an error
* `Handler.Atomic`, `Commands.Atomic` — commands that fail without a trace
* `Desk.handleLines` — lines handled one after the other

## Main results

* `Response.isError_text` — the text of a response is that of an error just if there is one
* `Desk.handleLine_atomic` — a line that fails leaves the state as it was
* `Desk.exists_sublist_handleLines` — lines do what those of them do that succeed
-/

namespace RpcSchema

open Json (Members)

variable {σ : Type}

/-! ### Errors in texts -/

/-- The texts of responses with an error. -/
def Response.IsError (text : String) : Prop := ∃ error id, text = Response.text ⟨.error error, id⟩

/-- The letter that tells the kind of an outcome: the first of its key, after a brace and a
quote. -/
theorem Response.getElem?_text (response : Response) : response.text.toList[2]? =
    some (match response.outcome with
      | .result _ => 'r'
      | .error _ => 'e') := by
  rw [Response.text, Response.toJson, Json.Tree.toList_compact_object, Json.Token.toList_quoted]
  cases response.outcome <;> simp [Outcome.member, Json.escapeChar]

theorem Response.isError_text {response : Response} :
    IsError response.text ↔ ∃ error, response.outcome = .error error := by
  constructor
  · rintro ⟨error, id, htext⟩
    have hletter := response.getElem?_text
    rw [htext, Response.getElem?_text] at hletter
    cases houtcome : response.outcome with
    | result value => simp [houtcome] at hletter
    | error error => exact ⟨error, rfl⟩
  · rintro ⟨error, houtcome⟩
    exact ⟨error, response.id, congrArg (fun outcome => Response.text ⟨outcome, _⟩) houtcome⟩

theorem Response.isError_text_ofResult {result : CallResult} {id : Option Json} :
    IsError (Response.ofResult result id).text ↔ ∃ error, result = .error error := by
  rw [isError_text]
  cases result <;> simp [ofResult]

/-! ### Atomic commands -/

/-- A command that replies before it returns, whatever the number of its reply, and leaves the state
as it was if the reply is an error. -/
def Handler.Atomic (handler : Handler σ) : Prop :=
  ∀ session arguments state, ∃ after result,
    (∀ number, handler.returned session number arguments state [] = (after, some result)) ∧
      ∀ error, result = .error error → after = state

theorem Handler.atomic_sync {operation : Members → Attempt σ Json}
    (h : ∀ arguments, (operation arguments).Atomic) :
    (Handler.sync fun arguments => (operation arguments).on).Atomic :=
  fun _ arguments state => ⟨_, _, fun _ => rfl, h arguments state⟩

theorem Handler.atomic_stateful {operation : Nat → Members → Attempt σ Json}
    (h : ∀ session arguments, (operation session arguments).Atomic) :
    (Handler.stateful fun session arguments => (operation session arguments).on).Atomic :=
  fun session arguments state => ⟨_, _, fun _ => rfl, h session arguments state⟩

/-- All commands fail without a trace. -/
def Commands.Atomic (commands : Commands σ) : Prop := ∀ entry ∈ commands, entry.2.Atomic

variable {commands : Commands σ}

/-- An unknown command fails without a trace as well. -/
theorem Commands.Atomic.returned (h : commands.Atomic) (session : Nat) (command : String)
    (arguments : Members) (state : σ) :
    ∃ after result, (∀ number,
        commands.returned session number command arguments state [] = (after, some result)) ∧
      ∀ error, result = .error error → after = state := by
  obtain ⟨handler, hmem, heq⟩ | heq := commands.returned_cases command
  · simp only [heq]
    exact h (command, handler) hmem session arguments state
  · exact ⟨state, _, fun number => heq session number arguments state [], fun _ _ => rfl⟩

namespace Desk

/-! ### Lines -/

/-- A line is answered at once, and neither its answer nor the state that it leaves depends on the
replies so far; if the answer is an error, the state is as it was. -/
theorem handleLine_atomic (h : commands.Atomic) (session : Nat) (line : String) (state : σ) :
    ∃ after text, (∀ desk : Desk σ, desk.state = state →
        (desk.handleLine commands session line).1.state = after ∧
          (desk.handleLine commands session line).2 = some text) ∧
      (Response.IsError text → after = state) := by
  cases hrequest : Request.parse? line with
  | none =>
    refine ⟨state, (Response.ofResult (.error (malformed line)) none).text, fun desk hdesk => ?_,
      fun _ => rfl⟩
    rw [handleLine, submitLine, hrequest]
    exact ⟨hdesk, rfl⟩
  | some request =>
    obtain ⟨after, result, hreturned, hatomic⟩ :=
      h.returned session request.execute request.arguments state
    refine ⟨after, (Response.ofResult result (Request.idIn? line)).text, fun desk hdesk => ?_,
      fun herror => ?_⟩
    · obtain ⟨hstate, -⟩ := desk.wait_after_submit commands session request []
      rw [hdesk, hreturned] at hstate
      rw [handleLine_snd, answer?, handleLine, submitLine, hrequest]
      simp only [hdesk, hreturned]
      exact ⟨hstate, rfl⟩
    · obtain ⟨error, rfl⟩ := Response.isError_text_ofResult.mp herror
      exact hatomic error rfl

/-- Lines handled one after the other, and the texts of their responses. -/
def handleLines (desk : Desk σ) (commands : Commands σ) :
    List (Nat × String) → Desk σ × List (Option String)
  | [] => (desk, [])
  | (session, line) :: rest =>
    let (desk, text) := desk.handleLine commands session line
    let (desk, texts) := desk.handleLines commands rest
    (desk, text :: texts)

/-- Runs of the same lines leave the same state and give the same answers, whatever replies there
were before. -/
theorem handleLines_congr (h : commands.Atomic) {desk other : Desk σ}
    (hstate : desk.state = other.state) (lines : List (Nat × String)) :
    (desk.handleLines commands lines).1.state = (other.handleLines commands lines).1.state ∧
      (desk.handleLines commands lines).2 = (other.handleLines commands lines).2 := by
  induction lines generalizing desk other with
  | nil => exact ⟨hstate, rfl⟩
  | cons first rest ih =>
    obtain ⟨session, line⟩ := first
    obtain ⟨after, text, hline, -⟩ := handleLine_atomic h session line other.state
    obtain ⟨hafter, htext⟩ := hline desk hstate
    obtain ⟨hafter', htext'⟩ := hline other rfl
    obtain ⟨hrest, htexts⟩ := ih (hafter.trans hafter'.symm)
    refine ⟨hrest, ?_⟩
    simp only [handleLines, htext, htext', htexts]

/-- What any lines make of a state, those of them make that are not answered with an error. -/
theorem exists_sublist_handleLines (h : commands.Atomic) (desk : Desk σ)
    (lines : List (Nat × String)) :
    ∃ kept : List (Nat × String), kept.Sublist lines ∧
      (desk.handleLines commands kept).1.state = (desk.handleLines commands lines).1.state ∧
      ∀ text, some text ∈ (desk.handleLines commands kept).2 → ¬ Response.IsError text := by
  induction lines generalizing desk with
  | nil => exact ⟨[], .slnil, rfl, nofun⟩
  | cons first rest ih =>
    obtain ⟨session, line⟩ := first
    obtain ⟨after, text, hline, hatomic⟩ := handleLine_atomic h session line desk.state
    obtain ⟨hafter, htext⟩ := hline desk rfl
    obtain ⟨kept, hsublist, hstate, hnoError⟩ := ih (desk.handleLine commands session line).1
    by_cases herror : Response.IsError text
    · obtain ⟨hsame, htexts⟩ := handleLines_congr h (hafter.trans (hatomic herror)) kept
      exact ⟨kept, hsublist.cons _, hsame.symm.trans hstate, htexts ▸ hnoError⟩
    · refine ⟨(session, line) :: kept, hsublist.cons_cons _, hstate, fun text' hmem => ?_⟩
      obtain heq | hmem := List.mem_cons.mp hmem
      · obtain rfl := Option.some.inj (heq.trans htext)
        exact herror
      · exact hnoError text' hmem

end Desk

end RpcSchema
