import RpcSchema.Proofs.Spelling

/-!
# Parameters of generated functions

A function for a command or an event has a parameter for each field, named by the identifier of the
field, and some of its own: the session, the function that takes the result, the signal. The method
of a client also has a local for the arguments. Identifiers of fields differ from each other, as the
verifier compares them. The other names it only compares with those of the fields as written, and
these are written in three ways. So the two other spellings are what can still meet a parameter.

## Main definitions

* `Schema.FieldsBeside` — fields that the verifier accepts beside some names
* `ParametersApart` — no function has two parameters of the same name
* `CommandClass.ownParams` — the parameters of a handler besides its arguments

## Main results

* `handler_nodup_iff`, `local_notMem_iff`, `notifier_nodup_iff` — one function at a time
* `parametersApart_iff` — when the parameters of all functions are distinct
-/

namespace RpcSchema

open RpcSchema.Naming

/-! ### Fields of commands and events -/

namespace Schema

/-- The identifiers of some fields. -/
def identifiers (fields : List Field) : List String := fields.map fun field => memberName field.name

/-- Fields as the verifier accepts them beside some names: well spelled, with identifiers that
differ, and not written like one of the names. -/
structure FieldsBeside (names : List String) (fields : List Field) : Prop where
  plain : ∀ field ∈ fields, PlainName field.name
  nodup : (identifiers fields).Nodup
  notMem : ∀ field ∈ fields, field.name ∉ names

variable {schema : Schema}

/-- Fields have identifiers that differ from each other and from those before. -/
theorem checkFields_nodup {owner : String} {before : List String} {fields : List Field}
    (h : checkFields schema owner before fields = .ok ()) :
    (∀ field ∈ fields, memberName field.name ∉ before) ∧ (identifiers fields).Nodup := by
  induction fields generalizing before with
  | nil => exact ⟨nofun, .nil⟩
  | cons field rest ih =>
    rw [checkFields, check_bind_eq_ok, check_bind_eq_ok] at h
    obtain ⟨hname, -, h⟩ := h
    obtain ⟨hrest, hnodup⟩ := ih h
    have hbefore : ∀ other ∈ rest, memberName other.name ∉ before := fun other hother hmem =>
      hrest other hother (List.mem_append_left _ hmem)
    have hfirst : ∀ other ∈ rest, memberName other.name ≠ memberName field.name := by
      intro other hother heq
      refine hrest other hother (List.mem_append_right _ ?_)
      rw [heq]
      exact List.mem_cons_self
    refine ⟨List.forall_mem_cons.mpr ⟨(checkFieldName_ok hname).2, hbefore⟩, ?_⟩
    rw [identifiers, List.map_cons, List.nodup_cons]
    refine ⟨fun hmem => ?_, hnodup⟩
    obtain ⟨other, hother, heq⟩ := List.mem_map.mp hmem
    exact hfirst other hother heq

/-- The rules on fields together with the rule on names that are taken. -/
theorem fieldsBeside_of_check {owner : String} {names : List String} {fields : List Field}
    {fault : Field → VerifyFault} (h : checkFields schema owner [] fields = .ok ())
    (hnames : checkNone ((fields.find? (names.contains ·.name)).map fault) = .ok ()) :
    FieldsBeside names fields where
  plain field hfield := plainName_of_isFieldName ((checkFields_ok h).1 field hfield)
  nodup := (checkFields_nodup h).2
  notMem := by
    simpa [checkNone_eq_ok, List.find?_eq_none] using hnames

variable (hv : schema.verify = .ok ()) {d : Definition} (hd : d ∈ schema.definitions)
include hv hd

theorem fieldsBeside_params {params : Params} {returns : TypeRef}
    (hbody : d.body = .command params returns) :
    FieldsBeside reservedParameters params.toFields := by
  have h := definition_ok hv hd
  rw [checkDefinition, hbody] at h
  obtain ⟨_, hfields, h⟩ := bind_eq_ok.mp h
  obtain ⟨_, hnames, -⟩ := bind_eq_ok.mp h
  exact fieldsBeside_of_check hfields hnames

theorem fieldsBeside_event {fields : List Field} (hbody : d.body = .event fields) :
    FieldsBeside reservedEventFields fields := by
  have h := definition_ok hv hd
  rw [checkDefinition, hbody] at h
  obtain ⟨_, hfields, hnames⟩ := bind_eq_ok.mp h
  exact fieldsBeside_of_check hfields hnames

end Schema

namespace Code

open RpcSchema.Schema

/-! ### Parameters -/

/-- The names of the parameters of a function. -/
def Function.paramNames (f : Function) : List String := f.signature.params.map (·.name)

/-- The local that a client method makes for the arguments. Free-form ones are a parameter. -/
def Command.argumentsLocal (command : Command) : List String :=
  match command.params with
  | .freeForm => []
  | .fields _ => ["args"]

/-- The parameters of each function that is generated for a command or an event are distinct, and
the local of a client method is not one of them. -/
structure ParametersApart (c : Context) : Prop where
  handlers : ∀ command ∈ c.commands, (handlerMethod c command).paramNames.Nodup
  calls : ∀ command ∈ c.commands, (clientMethod c command).paramNames.Nodup
  locals : ∀ command ∈ c.commands, ∀ name ∈ command.argumentsLocal,
    name ∉ (clientMethod c command).paramNames
  notifiers : ∀ event ∈ c.events, (notifyFunction c event).paramNames.Nodup

/-- The parameters of a handler besides its arguments. -/
def CommandClass.ownParams : CommandClass → List String
  | .sync => []
  | .async => ["done"]
  | .stateful => ["session"]

variable {c : Context}

/-! ### Names of parameters -/

/-- The names of the parameters that come from the arguments of a command. -/
def Command.argumentNames (command : Command) : List String :=
  match command.params with
  | .freeForm => ["args"]
  | .fields fields => identifiers fields

theorem map_name_fieldParams (fields : List Field) :
    (fieldParams c fields).map (·.name) = identifiers fields := by
  rw [fieldParams, List.map_map, identifiers]
  exact List.map_congr_left fun field _ => by rw [Function.comp_apply]

theorem map_name_argumentParams (command : Command) :
    (argumentParams c command).map (·.name) = command.argumentNames := by
  obtain ⟨name, params, returns, handling⟩ := command
  cases params with
  | freeForm => rfl
  | fields fields => exact map_name_fieldParams fields

theorem map_name_callParams (command : Command) :
    (callParams c command).map (·.name) = command.argumentNames := by
  obtain ⟨name, params, returns, handling⟩ := command
  cases params with
  | freeForm => rfl
  | fields fields => exact map_name_fieldParams fields

/-- A handler has a parameter of its own before the arguments, after them, or none. -/
theorem paramNames_handlerMethod (command : Command) : (handlerMethod c command).paramNames =
    match command.handling with
    | .sync => command.argumentNames
    | .async => command.argumentNames ++ ["done"]
    | .stateful => "session" :: command.argumentNames := by
  simp only [handlerMethod, Function.paramNames, List.map_append, map_name_argumentParams,
    sessionParams, doneParams]
  cases command.handling with
  | sync => exact List.append_nil _
  | async => rfl
  | stateful => exact congrArg _ (List.append_nil _)

/-- A client method has such a parameter only after the arguments. -/
theorem paramNames_clientMethod (command : Command) : (clientMethod c command).paramNames =
    match command.handling with
    | .async => command.argumentNames ++ ["done"]
    | .sync | .stateful => command.argumentNames := by
  simp only [clientMethod, Function.paramNames, List.map_append, map_name_callParams, doneParams]
  cases command.handling with
  | async => rfl
  | _ => exact List.append_nil _

theorem paramNames_notifyFunction (event : Event) :
    (notifyFunction c event).paramNames = "signal" :: identifiers event.fields :=
  congrArg _ (map_name_fieldParams event.fields)

/-! ### Distinct parameters -/

/-- The names that the verifier keeps fields from are small words and no keywords. -/
theorem isLower_of_reserved : ∀ word ∈ reservedParameters ++ reservedEventFields,
    (∀ c ∈ word.toList, c.isLower) ∧ word ∉ keywords := by
  have hsmall : ∀ word ∈ reservedParameters ++ reservedEventFields,
      word.toList.all Char.isLower ∧ word ∉ keywords := by
    decide
  exact fun word hword => ⟨List.all_eq_true.mp (hsmall word hword).1, (hsmall word hword).2⟩

/-- A name that no field is written like is met by fields in its other spellings only. -/
theorem notMem_identifiers_iff {names : List String} {fields : List Field} {word : String}
    (h : FieldsBeside names fields) (hword : word ∈ names)
    (hreserved : word ∈ reservedParameters ++ reservedEventFields) :
    word ∉ identifiers fields ↔ ∀ field ∈ fields, field.name ∉ otherSpellings word := by
  obtain ⟨hsmall, hkeyword⟩ := isLower_of_reserved word hreserved
  have hfield : ∀ field ∈ fields,
      memberName field.name = word ↔ field.name ∈ otherSpellings word := by
    intro field hfield
    have hne : field.name ≠ word := fun heq => h.notMem field hfield (heq ▸ hword)
    rw [memberName_eq_iff (h.plain field hfield) hsmall hkeyword, spellings, List.mem_cons,
      or_iff_right hne]
  rw [identifiers, List.mem_map, not_exists]
  simp only [not_and]
  exact forall₂_congr fun field hmem => not_congr (hfield field hmem)

/-- One more name after some others. -/
theorem nodup_append_singleton {names : List String} {name : String} :
    (names ++ [name]).Nodup ↔ name ∉ names ∧ names.Nodup :=
  (List.perm_append_singleton name names).nodup_iff.trans List.nodup_cons

section

variable {command : Command} (h : FieldsBeside reservedParameters command.params.toFields)
include h

theorem argumentNames_nodup : command.argumentNames.Nodup := by
  obtain ⟨name, params, returns, handling⟩ := command
  cases params with
  | freeForm => exact List.nodup_singleton _
  | fields fields => exact h.nodup

/-- The other parameters of a handler are met by fields only, not by free-form arguments. -/
theorem notMem_argumentNames_iff {word : String} (hword : word ∈ ["session", "done"]) :
    word ∉ command.argumentNames ↔
      ∀ field ∈ command.params.toFields, field.name ∉ otherSpellings word := by
  have hall : ∀ word ∈ ["session", "done"], word ∈ reservedParameters ∧ word ∉ ["args"] := by
    decide
  obtain ⟨hreserved, hargs⟩ := hall word hword
  obtain ⟨name, params, returns, handling⟩ := command
  cases params with
  | freeForm => exact iff_of_true hargs nofun
  | fields fields => exact notMem_identifiers_iff h hreserved (List.mem_append_left _ hreserved)

/-- The parameters of a handler are distinct if no field is another spelling of one that the handler
has by itself. -/
theorem handler_nodup_iff : (handlerMethod c command).paramNames.Nodup ↔
    ∀ field ∈ command.params.toFields, ∀ word ∈ command.handling.ownParams,
      field.name ∉ otherSpellings word := by
  have hnodup := argumentNames_nodup h
  rw [paramNames_handlerMethod]
  cases command.handling with
  | sync => exact iff_of_true hnodup fun _ _ => nofun
  | async =>
    simp only [CommandClass.ownParams, List.forall_mem_singleton]
    rw [nodup_append_singleton, and_iff_left hnodup, notMem_argumentNames_iff h (by decide)]
  | stateful =>
    simp only [CommandClass.ownParams, List.forall_mem_singleton]
    rw [List.nodup_cons, and_iff_left hnodup, notMem_argumentNames_iff h (by decide)]

/-- The parameters of a client method are distinct if those of the handler are. -/
theorem call_nodup (hhandler : (handlerMethod c command).paramNames.Nodup) :
    (clientMethod c command).paramNames.Nodup := by
  have hnodup := argumentNames_nodup h
  rw [paramNames_handlerMethod] at hhandler
  rw [paramNames_clientMethod]
  cases hhandling : command.handling with
  | async => simpa only [hhandling] using hhandler
  | _ => exact hnodup

/-- The local of a client method is met by fields only, in its other spellings. -/
theorem local_notMem_iff :
    (∀ name ∈ command.argumentsLocal, name ∉ (clientMethod c command).paramNames) ↔
      ∀ field ∈ command.params.toFields, field.name ∉ otherSpellings "args" := by
  have hnames : "args" ∉ (clientMethod c command).paramNames ↔ "args" ∉ command.argumentNames := by
    rw [paramNames_clientMethod]
    cases command.handling with
    | async =>
      rw [List.mem_append, not_or]
      exact and_iff_left (by decide)
    | _ => exact Iff.rfl
  obtain ⟨name, params, returns, handling⟩ := command
  cases params with
  | freeForm => exact iff_of_true nofun nofun
  | fields fields =>
    rw [Command.argumentsLocal, List.forall_mem_singleton, hnames]
    exact notMem_identifiers_iff h (by decide) (by decide)

end

theorem notifier_nodup_iff {event : Event} (h : FieldsBeside reservedEventFields event.fields) :
    (notifyFunction c event).paramNames.Nodup ↔
      ∀ field ∈ event.fields, field.name ∉ otherSpellings "signal" := by
  rw [paramNames_notifyFunction, List.nodup_cons, and_iff_left h.nodup]
  exact notMem_identifiers_iff h (by decide) (by decide)

/-! ### All functions -/

theorem exists_definition_of_command {command : Command} (h : command ∈ c.commands) :
    ∃ d ∈ c.schema.definitions, d.body = .command command.params command.returns := by
  obtain ⟨⟨name, line, body⟩, hd, h⟩ := List.mem_filterMap.mp h
  cases body with
  | command params returns =>
    cases h
    exact ⟨_, hd, rfl⟩
  | _ => cases h

theorem exists_definition_of_event {event : Event} (h : event ∈ c.events) :
    ∃ d ∈ c.schema.definitions, d.body = .event event.fields := by
  obtain ⟨⟨name, line, body⟩, hd, h⟩ := List.mem_filterMap.mp h
  cases body with
  | event fields =>
    cases h
    exact ⟨_, hd, rfl⟩
  | _ => cases h

/-- The parameters of all functions for commands and events are distinct, whatever the conventions,
exactly if no field is another spelling of a name that its function takes beside the fields. -/
theorem parametersApart_iff {schema : Schema} (hv : schema.verify = .ok ()) (config : Config) :
    ParametersApart (.of schema config) ↔
      (∀ command ∈ (Context.of schema config).commands, ∀ field ∈ command.params.toFields,
        ∀ word ∈ "args" :: command.handling.ownParams, field.name ∉ otherSpellings word) ∧
      ∀ event ∈ (Context.of schema config).events, ∀ field ∈ event.fields,
        field.name ∉ otherSpellings "signal" := by
  have hcommand : ∀ command ∈ (Context.of schema config).commands,
      FieldsBeside reservedParameters command.params.toFields := fun command hcommand =>
    have ⟨_, hd, hbody⟩ := exists_definition_of_command hcommand
    fieldsBeside_params hv hd hbody
  have hevent : ∀ event ∈ (Context.of schema config).events,
      FieldsBeside reservedEventFields event.fields := fun event hevent =>
    have ⟨_, hd, hbody⟩ := exists_definition_of_event hevent
    fieldsBeside_event hv hd hbody
  constructor
  · rintro ⟨hhandlers, -, hlocals, hnotifiers⟩
    refine ⟨fun command hmem field hfield => List.forall_mem_cons.mpr ⟨?_, ?_⟩,
      fun event hmem => ?_⟩
    · exact (local_notMem_iff (hcommand command hmem)).mp (hlocals command hmem) field hfield
    · exact (handler_nodup_iff (hcommand command hmem)).mp (hhandlers command hmem) field hfield
    · exact (notifier_nodup_iff (hevent event hmem)).mp (hnotifiers event hmem)
  · rintro ⟨hfields, hsignal⟩
    have hhandlers : ∀ command ∈ (Context.of schema config).commands,
        (handlerMethod (.of schema config) command).paramNames.Nodup := fun command hmem =>
      (handler_nodup_iff (hcommand command hmem)).mpr fun field hfield =>
        (List.forall_mem_cons.mp (hfields command hmem field hfield)).2
    refine ⟨hhandlers, fun command hmem => ?_, fun command hmem => ?_, fun event hmem => ?_⟩
    · exact call_nodup (hcommand command hmem) (hhandlers command hmem)
    · exact (local_notMem_iff (hcommand command hmem)).mpr fun field hfield =>
        (List.forall_mem_cons.mp (hfields command hmem field hfield)).1
    · exact (notifier_nodup_iff (hevent event hmem)).mpr (hsignal event hmem)

/-- A command that works on the session and has a parameter like it. -/
def handoverEntries : List Entry.Parsed :=
  [⟨.map [("command", .string "getfd"), ("data", .map [("Session", .string "str")])], 1⟩]

/-- The schema of `handoverEntries`. -/
def handover : Schema where
  definitions := [
    ⟨"getfd", 1, .command (.fields [⟨"Session", .scalar .str, false⟩]) (.scalar .none)⟩]

theorem build_handover : build handoverEntries = .ok handover := rfl

theorem verify_handover : handover.verify = .ok () :=
  verify_eq_ok.mpr ⟨rfl, rfl, rfl, by cbv⟩

theorem parametersApart_handover_iff : handover.verify = .ok () ∧
    (ParametersApart (.of handover .default) ↔
      (∀ command ∈ (Context.of handover .default).commands, ∀ field ∈ command.params.toFields,
        ∀ word ∈ "args" :: command.handling.ownParams, field.name ∉ otherSpellings word) ∧
      ∀ event ∈ (Context.of handover .default).events, ∀ field ∈ event.fields,
        field.name ∉ otherSpellings "signal") :=
  ⟨verify_handover, parametersApart_iff verify_handover .default⟩

/-- The handler has two parameters of the name `session`. -/
theorem not_parametersApart : ¬∀ entries schema config, build entries = .ok schema →
    schema.verify = .ok () → ParametersApart (.of schema config) := by
  intro h
  have hhandlers := (h _ handover .default build_handover verify_handover).handlers
  have htwice : ¬["session", "session"].Nodup := by decide
  exact htwice (hhandlers _ List.mem_cons_self)

end Code

end RpcSchema
