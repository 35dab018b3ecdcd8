import RpcSchema.Proofs.Entry.Grammar

/-!
# Where reading an entry fails

The parser never takes a token too many: what it has taken is the start of some entry, for every
open map and list can still be closed. And a token that it refuses is one with which no entry goes
on, for what the grammar derives the parser takes. So the place of an error is that of the first
token that does not fit.

Repeated keys are the exception. They are no matter of the grammar, and the parser finds them late,
when the value of the key is complete; what it reports is the place of the key. That this is the
place of a token whose name the same map had before needs the history of the parser: a frame holds
a key that was read when the map had just the members that it has still.

## Main definitions

* `Viable` — lexemes that some entry starts with
* `Move` — the results that one token can have
* `FirstMisfit` — the first token with which no entry goes on
* `RepeatedKey` — a key whose name its map had before
* `State.Traced` — the invariant for the keys of open maps

## Main results

* `State.ReachedBy.viable` — what the parser has taken starts an entry
* `not_viable_of_step` — a token that it refuses does not go on with it
* `traced_of_run` — the keys of open maps are where they were read
* `parseTokens_error_place` — the place of an error
-/

namespace RpcSchema.Entry

/-! ### Starts of entries -/

/-- Lexemes that some entry starts with, keys repeated or not. The end is the last lexeme of an
entry. -/
def Viable (lexemes : List Lexeme) : Prop :=
  ∃ rest body value, Derives body value ∧ lexemes ++ rest = body ++ [.finish]

theorem Viable.of_append {before after : List Lexeme} (h : Viable (before ++ after)) :
    Viable before := by
  obtain ⟨rest, body, value, hvalue, hlexemes⟩ := h
  exact ⟨after ++ rest, body, value, hvalue, by rw [← List.append_assoc, hlexemes]⟩

/-- Lexemes that some value starts with. -/
def Completable (lexemes : List Lexeme) : Prop :=
  ∃ rest value, Derives (lexemes ++ rest) value

theorem Completable.viable {lexemes : List Lexeme} (h : Completable lexemes) :
    Viable lexemes := by
  obtain ⟨rest, value, hvalue⟩ := h
  exact ⟨rest ++ [.finish], _, value, hvalue, (List.append_assoc _ _ _).symm⟩

/-! ### What the parser has taken -/

theorem exists_derives_list {items : List (List Lexeme × Value)}
    (hitems : ∀ item ∈ items, Derives item.1 item.2) {lexemes : List Lexeme} {value : Value}
    (hvalue : Derives lexemes value) :
    ∃ list, Derives (.openBracket :: (items.flatMap (·.1 ++ [Lexeme.comma]) ++ lexemes) ++
      [.closeBracket]) list := by
  refine ⟨_, .list ?_ (separated_concat Prod.fst items (lexemes, value))⟩
  exact List.forall_mem_append.mpr ⟨hitems, List.forall_mem_singleton.mpr hvalue⟩

theorem exists_derives_map {members : List (String × List Lexeme × Value)}
    (hmembers : ∀ member ∈ members, Derives member.2.1 member.2.2) (key : String)
    {lexemes : List Lexeme} {value : Value} (hvalue : Derives lexemes value) :
    ∃ map, Derives (.openBrace :: (members.flatMap (memberLexemes · ++ [Lexeme.comma]) ++
      .string key :: .colon :: lexemes) ++ [.closeBrace]) map := by
  refine ⟨_, .map ?_ (separated_concat memberLexemes members (key, lexemes, value))⟩
  exact List.forall_mem_append.mpr ⟨hmembers, List.forall_mem_singleton.mpr hvalue⟩

theorem DerivedItems.derives {items : List (List Lexeme × Value)} (h : DerivedItems items) :
    ∀ item ∈ items, Derives item.1 item.2 :=
  fun item hitem => (h item hitem).1

theorem DerivedMembers.derives {members : List (String × List Lexeme × Value)}
    (h : DerivedMembers members) : ∀ member ∈ members, Derives member.2.1 member.2.2 :=
  fun member hmember => (h.2 member hmember).1

/-- The innermost value can be completed. -/
theorem Await.ReachedBy.completable {await : Await} {lexemes : List Lexeme}
    (h : await.ReachedBy lexemes) : Completable lexemes := by
  cases h with
  | value => exact ⟨[.string ""], _, .string ""⟩
  | @item items hitems =>
    exact ⟨[.closeBracket], _, .list hitems.derives (separated_flatMap Prod.fst items)⟩
  | @key opened members hmembers =>
    exact ⟨[.closeBrace], _, .map hmembers.derives (separated_flatMap memberLexemes members)⟩
  | @colon opened key members hmembers =>
    obtain ⟨map, hmap⟩ := exists_derives_map hmembers.derives key.name (.string "")
    exact ⟨[.colon, .string "", .closeBrace], map, by simpa using hmap⟩
  | @listRest items last hitems =>
    obtain ⟨hitems, hlast⟩ := List.forall_mem_append.mp hitems.derives
    obtain ⟨list, hlist⟩ := exists_derives_list hitems (hlast last (.head _))
    exact ⟨[.closeBracket], list, hlist⟩
  | @mapRest opened members last hmembers =>
    obtain ⟨hmembers, hlast⟩ := List.forall_mem_append.mp hmembers.derives
    obtain ⟨map, hmap⟩ := exists_derives_map hmembers last.1 (hlast last (.head _))
    exact ⟨[.closeBrace], map, hmap⟩

/-- A list or map can be completed once the value that it waits for is. -/
theorem Frame.ReachedBy.completable {frame : Frame} {before : List Lexeme}
    (h : frame.ReachedBy before) {lexemes : List Lexeme} {value : Value}
    (hvalue : Derives lexemes value) : Completable (before ++ lexemes) := by
  cases h with
  | @list items hitems =>
    obtain ⟨list, hlist⟩ := exists_derives_list hitems.derives hvalue
    exact ⟨[.closeBracket], list, by simpa using hlist⟩
  | @map opened key members hmembers =>
    obtain ⟨map, hmap⟩ := exists_derives_map hmembers.derives key.name hvalue
    exact ⟨[.closeBrace], map, by simpa using hmap⟩

theorem StackReachedBy.completable {stack : List Frame} {before : List Lexeme}
    (h : StackReachedBy stack before) {lexemes : List Lexeme} {value : Value}
    (hvalue : Derives lexemes value) : Completable (before ++ lexemes) := by
  induction h generalizing lexemes value with
  | nil => exact ⟨[], value, by simpa using hvalue⟩
  | cons _ hframe ih =>
    obtain ⟨inner, part, hpart⟩ := hframe.completable hvalue
    obtain ⟨outer, whole, hwhole⟩ := ih hpart
    exact ⟨inner ++ outer, whole, by simpa using hwhole⟩

/-- What the parser has taken is the start of an entry. -/
theorem State.ReachedBy.viable {state : State} {lexemes : List Lexeme}
    (h : state.ReachedBy lexemes) : Viable lexemes := by
  cases h with
  | @inside stack await before after hstack hawait =>
    obtain ⟨inner, part, hpart⟩ := hawait.completable
    obtain ⟨outer, whole, hwhole⟩ := hstack.completable hpart
    have hcompletable : Completable (before ++ after) :=
      ⟨inner ++ outer, whole, by simpa using hwhole⟩
    exact hcompletable.viable
  | finish hvalue hkeys =>
    have hcompletable : Completable lexemes := ⟨[], _, by simpa using hvalue⟩
    exact hcompletable.viable

/-! ### What one token does -/

/-- The results that one token can have, in the stack and the state of waiting that it finds. -/
inductive Move (token : Token) (stack : List Frame) (await : Await) : Except ParseError State → Prop
  /-- the token completes a value -/
  | complete (value : Value) : Move token stack await (complete stack value)
  | stay {next : Await} (hnext : ∀ opened members key, next ≠ .colon opened members key) :
    Move token stack await (.ok ⟨stack, next⟩)
  /-- an item of a list starts -/
  | item {items : List Value} {next : Await}
    (hnext : ∀ opened members key, next ≠ .colon opened members key) :
    Move token stack await (.ok ⟨.list items :: stack, next⟩)
  | key {opened : Position} {members : List (String × Value)} {name : String}
    (hawait : await = .key opened members) (htoken : token.lexeme = .string name) :
    Move token stack await (.ok ⟨stack, .colon opened members ⟨name, token.position⟩⟩)
  | colon {opened : Position} {members : List (String × Value)} {key : Key}
    (hawait : await = .colon opened members key) (htoken : token.lexeme = .colon) :
    Move token stack await (.ok ⟨.map opened members key :: stack, .value⟩)
  | finish (value : Value) : Move token stack await (.ok ⟨[], .finish value⟩)
  | refuse {fault : ParseFault} (hfault : ∀ name, fault ≠ .duplicateKey name) :
    Move token stack await (.error ⟨token.position, fault⟩)

theorem step_move (stack : List Frame) (await : Await) (token : Token) :
    Move token stack await (step ⟨stack, await⟩ token) := by
  cases await with
  | value =>
    simp only [step, enter]
    split
    · exact .stay (by simp)
    · exact .stay (by simp)
    · exact .complete _
    · exact .refuse (by simp)
  | item items =>
    simp only [step, enter]
    split
    · exact .complete _
    · split
      · exact .item (by simp)
      · exact .item (by simp)
      · exact .stay (by simp)
      · exact .refuse (by simp)
  | key opened members =>
    simp only [step]
    split
    · exact .complete _
    · rename_i htoken
      exact .key rfl htoken
    · exact .refuse (by simp)
  | colon opened members key =>
    simp only [step]
    split
    · rename_i htoken
      exact .colon rfl htoken
    · exact .refuse (by simp)
  | listRest items =>
    simp only [step]
    split
    · exact .stay (by simp)
    · exact .complete _
    · exact .refuse (by simp)
  | mapRest opened members =>
    simp only [step]
    split
    · exact .stay (by simp)
    · exact .complete _
    · exact .refuse (by simp)
    · exact .refuse (by simp)
  | finish value =>
    simp only [step]
    split
    · exact .finish value
    · exact .refuse (by simp)

/-! ### What the parser refuses -/

/-- An error for a token that does not fit: it is reported at the token. -/
def Misplaced (token : Token) (e : ParseError) : Prop :=
  e.position = token.position ∧ ∀ name, e.fault ≠ .duplicateKey name

/-- An error for the key of the innermost frame, which a member of its map has. -/
def Repeated (stack : List Frame) (e : ParseError) : Prop :=
  ∃ opened members key below, stack = .map opened members key :: below ∧
    key.name ∈ members.map (·.1) ∧ e = ⟨key.position, .duplicateKey key.name⟩

theorem repeated_of_complete {stack : List Frame} {value : Value} {e : ParseError}
    (h : complete stack value = .error e) : Repeated stack e := by
  unfold complete at h
  split at h
  · cases h
  · cases h
  · rename_i opened members key below
    split at h
    · rename_i hold
      cases h
      exact ⟨opened, members, key, below, rfl, (isSome_lookup_iff members).mp hold, rfl⟩
    · cases h

/-- The two kinds of failure. -/
theorem misplaced_or_repeated_of_step {state : State} {token : Token} {e : ParseError}
    (h : step state token = .error e) : Misplaced token e ∨ Repeated state.stack e := by
  have hmove := step_move state.stack state.await token
  generalize step ⟨state.stack, state.await⟩ token = result at hmove h
  cases hmove with
  | complete value => exact .inr (repeated_of_complete h)
  | refuse hfault =>
    cases h
    exact .inl ⟨rfl, hfault⟩
  | _ => cases h

/-- The tokens of a value are read, or a key of it repeats. -/
theorem Derives.run_cases {ts : List Token} {value : Value}
    (h : Derives (ts.map Token.lexeme) value) : run .start ts = .ok ⟨[], .finish value⟩ ∨
      ∃ key : Key, run .start ts = .error ⟨key.position, .duplicateKey key.name⟩ := by
  by_cases hkeys : value.KeysDistinct
  · exact .inl (h.run_start hkeys)
  · exact .inr ((h.reads [] ts rfl).2 hkeys)

theorem run_concat_error {before : List Token} {state : State} {token : Token} {e : ParseError}
    (hrun : run .start before = .ok state) (hstep : step state token = .error e)
    (after : List Token) : run .start (before ++ token :: after) = .error e := by
  rw [run_append, bind_of_eq_ok hrun, run, hstep]
  rfl

/-- No entry goes on with a token that the parser refuses. -/
theorem not_viable_of_step {before : List Token} {state : State} {token : Token} {e : ParseError}
    (hrun : run .start before = .ok state) (hstep : step state token = .error e)
    (hmisplaced : Misplaced token e) : ¬Viable ((before ++ [token]).map Token.lexeme) := by
  rintro ⟨rest, body, value, hvalue, hlexemes⟩
  rcases List.eq_nil_or_concat' rest with rfl | ⟨rest, last, rfl⟩
  · -- The token is the end, and what precedes it is a value.
    rw [List.append_nil, List.map_append, List.map_singleton] at hlexemes
    obtain ⟨rfl, hlast⟩ := List.append_inj' hlexemes rfl
    rcases hvalue.run_cases with hok | ⟨key, herror⟩
    · obtain rfl := Except.ok.inj (hok.symm.trans hrun)
      rw [step, List.singleton_inj.mp hlast] at hstep
      cases hstep
    · cases hrun.symm.trans herror
  · -- The token stands inside a value.
    rw [← List.append_assoc] at hlexemes
    obtain ⟨rfl, -⟩ := List.append_inj' hlexemes rfl
    let more : List Token := rest.map (⟨·, ⟨0, 0⟩⟩)
    have hmore : more.map Token.lexeme = rest := by
      rw [List.map_map]
      exact List.map_id rest
    rw [← hmore, ← List.map_append, List.append_assoc] at hvalue
    have hfails := run_concat_error hrun hstep more
    rcases hvalue.run_cases with hok | ⟨key, herror⟩
    · cases hfails.symm.trans hok
    · obtain rfl := Except.error.inj (hfails.symm.trans herror)
      exact hmisplaced.2 key.name rfl

/-! ### Keys of open maps -/

/-- The token of a key. -/
def Key.token (key : Key) : Token := ⟨.string key.name, key.position⟩

/-- The tokens read so far hold the key of each open map, with a colon after it, and the parser read
the key when the map had the members that it has still. -/
inductive StackTraced (ts : List Token) : List Frame → Prop
  | nil : StackTraced ts []
  | list {items : List Value} {stack : List Frame} (hstack : StackTraced ts stack) :
    StackTraced ts (.list items :: stack)
  | map {stack : List Frame} {opened : Position} {members : List (String × Value)} {key : Key}
    {before after : List Token} {colon : Token} (hstack : StackTraced ts stack)
    (hrun : run .start before = .ok ⟨stack, .key opened members⟩)
    (hcolon : colon.lexeme = .colon) (hts : ts = before ++ key.token :: colon :: after) :
    StackTraced ts (.map opened members key :: stack)

/-- The invariant for the keys of open maps. A key that waits for its colon is the last token. -/
structure State.Traced (ts : List Token) (state : State) : Prop where
  stack : StackTraced ts state.stack
  colon : ∀ opened members key, state.await = .colon opened members key →
    ∃ before, run .start before = .ok ⟨state.stack, .key opened members⟩ ∧
      ts = before ++ [key.token]

theorem StackTraced.append {ts : List Token} {stack : List Frame} (h : StackTraced ts stack)
    (more : List Token) : StackTraced (ts ++ more) stack := by
  induction h with
  | nil => exact .nil
  | list _ ih => exact .list ih
  | map _ hrun hcolon hts ih =>
    subst hts
    exact .map ih hrun hcolon (List.append_assoc _ _ _)

theorem StackTraced.tail {ts : List Token} {frame : Frame} {stack : List Frame}
    (h : StackTraced ts (frame :: stack)) : StackTraced ts stack := by
  cases h with
  | list hstack => exact hstack
  | map hstack _ _ _ => exact hstack

theorem StackTraced.traced {ts : List Token} {stack : List Frame} (h : StackTraced ts stack)
    {await : Await} (hawait : ∀ opened members key, await ≠ .colon opened members key) :
    State.Traced ts ⟨stack, await⟩ :=
  ⟨h, fun opened members key hcolon => absurd hcolon (hawait opened members key)⟩

theorem traced_of_complete {ts : List Token} {stack : List Frame} (h : StackTraced ts stack)
    {value : Value} {next : State} (hnext : complete stack value = .ok next) :
    next.Traced ts := by
  unfold complete at hnext
  split at hnext
  · cases hnext
    exact StackTraced.nil.traced (by simp)
  · cases hnext
    exact h.tail.traced (by simp)
  · split at hnext
    · cases hnext
    · cases hnext
      exact h.tail.traced (by simp)

/-- One step keeps the invariant, after the run that led to its state. -/
theorem State.Traced.step {ts : List Token} {state next : State} (h : state.Traced ts)
    (hrun : run .start ts = .ok state) {token : Token} (hnext : step state token = .ok next) :
    next.Traced (ts ++ [token]) := by
  obtain ⟨stack, await⟩ := state
  have hstack := h.stack.append [token]
  have hmove := step_move stack await token
  generalize Entry.step ⟨stack, await⟩ token = result at hmove hnext
  cases hmove with
  | complete value => exact traced_of_complete hstack hnext
  | stay hother =>
    cases hnext
    exact hstack.traced hother
  | item hother =>
    cases hnext
    exact hstack.list.traced hother
  | key hawait htoken =>
    cases hnext
    refine ⟨hstack, fun opened members key hcolon => ?_⟩
    cases hcolon
    exact ⟨ts, hawait ▸ hrun, by rw [Key.token, ← htoken]⟩
  | colon hawait htoken =>
    cases hnext
    obtain ⟨before, hbefore, rfl⟩ := h.colon _ _ _ hawait
    exact (hstack.map hbefore htoken (List.append_assoc _ _ _)).traced (by simp)
  | finish value =>
    cases hnext
    exact StackTraced.nil.traced (by simp)
  | refuse hfault => cases hnext

/-- After a run the key of each open map is where it was read. -/
theorem traced_of_run {ts : List Token} {state : State} (h : run .start ts = .ok state) :
    state.Traced ts := by
  induction ts using List.reverseRecOn generalizing state with
  | nil =>
    cases h
    exact StackTraced.nil.traced (by simp)
  | append_singleton before token ih =>
    rw [run_append] at h
    obtain ⟨middle, hbefore, hstep⟩ := bind_eq_ok.mp h
    rw [run_singleton] at hstep
    exact (ih hbefore).step hbefore hstep

/-! ### Errors -/

/-- The first token of a list with which no entry starts, after what precedes it. -/
def FirstMisfit (ts : List Token) (token : Token) : Prop :=
  ∃ before after, ts = before ++ token :: after ∧
    (∀ earlier later, before = earlier ++ later → Viable (earlier.map Token.lexeme)) ∧
    ¬Viable ((before ++ [token]).map Token.lexeme)

/-- A key of a map with a member before it that has the same name. -/
def RepeatedKey (ts : List Token) (key : Key) : Prop :=
  ∃ (before after : List Token) (colon : Token) (outer : List Lexeme)
    (members : List (String × List Lexeme × Value)),
    ts = before ++ key.token :: colon :: after ∧ colon.lexeme = .colon ∧
    before.map Token.lexeme =
      outer ++ .openBrace :: members.flatMap (memberLexemes · ++ [Lexeme.comma]) ∧
    (∀ member ∈ members, Derives member.2.1 member.2.2) ∧ key.name ∈ members.map (·.1)

theorem exists_failed_step {state : State} {ts : List Token} {e : ParseError}
    (h : run state ts = .error e) : ∃ before token after middle, ts = before ++ token :: after ∧
      run state before = .ok middle ∧ step middle token = .error e := by
  induction ts generalizing state with
  | nil => cases h
  | cons token ts ih =>
    rcases bind_eq_error.mp h with hstep | ⟨next, hnext, h⟩
    · exact ⟨[], token, ts, state, rfl, rfl, hstep⟩
    · obtain ⟨before, failed, after, middle, rfl, hbefore, hstep⟩ := ih h
      exact ⟨token :: before, failed, after, middle, rfl, bind_eq_ok.mpr ⟨next, hnext, hbefore⟩,
        hstep⟩

/-- An entry fails where its tokens do: what lets the end pass is a complete value. -/
theorem run_of_parseTokens_error {body : List Token} {last : Token} (hlast : last.lexeme = .finish)
    {e : ParseError} (h : parseTokens (body ++ [last]) = .error e) :
    run .start (body ++ [last]) = .error e := by
  rcases bind_eq_error.mp h with hrun | ⟨final, hrun, h⟩
  · exact hrun
  · rw [run_append] at hrun
    obtain ⟨middle, hbody, hstep⟩ := bind_eq_ok.mp hrun
    rw [run_singleton] at hstep
    obtain ⟨value, hawait, rfl⟩ := step_finish_eq_ok hlast hstep
    cases h

/-- The key of an open map that has a member of that name repeats one of the tokens. -/
theorem repeatedKey_of_traced {ts : List Token} (hts : ∀ token ∈ ts, token.lexeme ≠ .finish)
    {below : List Frame} {opened : Position} {members : List (String × Value)} {key : Key}
    (h : StackTraced ts (.map opened members key :: below)) (hold : key.name ∈ members.map (·.1)) :
    RepeatedKey ts key := by
  cases h with
  | @map _ _ _ _ before after colon _ hrun hcolon hsplit =>
    subst hsplit
    have hbefore : ∀ token ∈ before, token.lexeme ≠ .finish :=
      fun token htoken => hts token (List.mem_append_left _ htoken)
    have hreached := reachedBy_start.run hbefore hrun
    rw [List.nil_append] at hreached
    generalize hlexemes : before.map Token.lexeme = lexemes at hreached
    cases hreached with
    | @inside stack await outer inner hstack hawait =>
      cases hawait with
      | @key opened members hmembers =>
        refine ⟨before, after, colon, outer, members, rfl, hcolon, hlexemes, hmembers.derives, ?_⟩
        rwa [derivedMembers, List.map_map] at hold

/-- **An error is reported at a repeated key or at the first token that does not fit.** -/
theorem parseTokens_error_place {start : Position} {text : List Char} {ts : List Token}
    (h : tokens start text = .ok ts) {e : ParseError} (he : parseTokens ts = .error e) :
    (∃ key : Key, e = ⟨key.position, .duplicateKey key.name⟩ ∧ RepeatedKey ts key) ∨
      ((∀ name, e.fault ≠ .duplicateKey name) ∧
        ∃ token, FirstMisfit ts token ∧ e.position = token.position) := by
  obtain ⟨pieces, -, hpieces, rfl⟩ := tokens_eq_ok_iff.mp h
  have hbody := ne_finish_of_mem_placed start hpieces
  obtain ⟨before, token, after, state, hsplit, hrun, hstep⟩ :=
    exists_failed_step (run_of_parseTokens_error rfl he)
  have hbefore : ∀ t ∈ before, t.lexeme ≠ .finish := by
    intro t ht
    have hinit := congrArg List.dropLast hsplit
    rw [List.dropLast_concat, List.dropLast_append_of_ne_nil (List.cons_ne_nil _ _)] at hinit
    exact hbody t (hinit ▸ List.mem_append_left _ ht)
  rcases misplaced_or_repeated_of_step hstep with hmisplaced | ⟨opened, members, key, below, hrest⟩
  · refine .inr ⟨hmisplaced.2, token, ⟨before, after, hsplit, ?_, ?_⟩, hmisplaced.1⟩
    · rintro earlier later rfl
      have hviable := (reachedBy_start.run hbefore hrun).viable
      rw [List.nil_append, List.map_append] at hviable
      exact hviable.of_append
    · exact not_viable_of_step hrun hstep hmisplaced
  · obtain ⟨hstack, hold, rfl⟩ := hrest
    have htraced := (traced_of_run hrun).stack
    rw [hstack] at htraced
    obtain ⟨first, more, colon, outer, parts, rfl, hkey⟩ :=
      repeatedKey_of_traced hbefore htraced hold
    refine .inl ⟨key, rfl, first, more ++ token :: after, colon, outer, parts, ?_, hkey⟩
    rw [hsplit, List.append_assoc]
    rfl

/-- A map that ends inside a list. -/
def crossed : List Char := "\x7b 'a': [ 'b' \x7d".toList

/-- The tokens of `crossed`. -/
def crossedTokens : List Token :=
  [⟨.openBrace, ⟨1, 1⟩⟩, ⟨.string "a", ⟨1, 3⟩⟩, ⟨.colon, ⟨1, 6⟩⟩, ⟨.openBracket, ⟨1, 8⟩⟩,
    ⟨.string "b", ⟨1, 10⟩⟩, ⟨.closeBrace, ⟨1, 14⟩⟩, ⟨.finish, ⟨1, 15⟩⟩]

/-- A map with a key twice, the second time before a list, and without an end. -/
def twice : List Char := "\x7b 'a': 'b', 'a': [ 'c' ]".toList

/-- The tokens of `twice`. -/
def twiceTokens : List Token :=
  [⟨.openBrace, ⟨1, 1⟩⟩, ⟨.string "a", ⟨1, 3⟩⟩, ⟨.colon, ⟨1, 6⟩⟩, ⟨.string "b", ⟨1, 8⟩⟩,
    ⟨.comma, ⟨1, 11⟩⟩, ⟨.string "a", ⟨1, 13⟩⟩, ⟨.colon, ⟨1, 16⟩⟩, ⟨.openBracket, ⟨1, 18⟩⟩,
    ⟨.string "c", ⟨1, 20⟩⟩, ⟨.closeBracket, ⟨1, 24⟩⟩, ⟨.finish, ⟨1, 25⟩⟩]

theorem tokens_crossed : tokens ⟨1, 1⟩ crossed = .ok crossedTokens := by
  decide +kernel

theorem tokens_twice : tokens ⟨1, 1⟩ twice = .ok twiceTokens := by
  decide +kernel

/-- The brace inside the list does not fit; of the two mistakes in the other text the key comes
first. -/
theorem parseTokens_error_place_crossed :
    tokens ⟨1, 1⟩ crossed = .ok crossedTokens ∧
      parseTokens crossedTokens = .error ⟨⟨1, 14⟩, .expectedListEnd .closeBrace⟩ ∧
      (∃ token, FirstMisfit crossedTokens token ∧ token.position = ⟨1, 14⟩) ∧
      tokens ⟨1, 1⟩ twice = .ok twiceTokens ∧
      parseTokens twiceTokens = .error ⟨⟨1, 13⟩, .duplicateKey "a"⟩ ∧
      RepeatedKey twiceTokens ⟨"a", ⟨1, 13⟩⟩ := by
  have hcrossed : parseTokens crossedTokens = .error ⟨⟨1, 14⟩, .expectedListEnd .closeBrace⟩ := rfl
  have htwice : parseTokens twiceTokens = .error ⟨⟨1, 13⟩, .duplicateKey "a"⟩ := rfl
  refine ⟨tokens_crossed, hcrossed, ?_, tokens_twice, htwice, ?_⟩
  · rcases parseTokens_error_place tokens_crossed hcrossed with
      ⟨⟨name, place⟩, hkey, -⟩ | ⟨-, token, h, hplace⟩
    · cases hkey
    · exact ⟨token, h, hplace.symm⟩
  · rcases parseTokens_error_place tokens_twice htwice with
      ⟨⟨name, place⟩, hkey, h⟩ | ⟨hfault, -⟩
    · cases hkey
      exact h
    · exact absurd rfl (hfault "a")

end RpcSchema.Entry
