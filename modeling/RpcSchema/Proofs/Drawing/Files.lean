import Mathlib.Algebra.Group.Nat.Defs
import Mathlib.Data.List.Nodup
import RpcSchema.Proofs.Drawing.Blame
import RpcSchema.Proofs.Drawing.Client
import RpcSchema.Proofs.Drawing.Watching

/-!
# Which files are open

Clients of a drawing service open and close files, in any sessions and in any order, with any other
lines and with lines that fail in between. Which files are open follows from what is written down
about it: a handle is open from the line that was answered with it up to the line that was answered
to have closed it.

The service itself knows nothing of the past. It keeps a count of the files ever opened, and the
numbers of those that are open. That the two are enough is an invariant of its runs: the numbers
given out are those up to the count, so the next one is new, and what is open is what was given out
and not closed. The count has to fit into the numbers of handles.

## Main definitions

* `FileStep` — what a command does to the files
* `opened`, `closed`, `stillOpen` — the handles given out, those closed, and those open
* `Filed` — files that are as the past says

## Main results

* `returned_fileStep`, `submitLine_fileStep` — what any command does to the files, and any request
* `succeeds_closeFile` — when a file is closed
* `Filed.next`, `filed_run` — what an action keeps, and what a run does
* `files_tracked` — handles, open files and closing after a run
-/

namespace RpcSchema.Drawing

open Attempt (keeps_get keeps_lift keeps_pure)
open Json (Members Fits)
open RpcSchema.Wire

/-! ### Commands -/

/-- How many files were ever opened, and the numbers of those that are open. -/
def Service.files (s : Service) : Nat × List Nat := (s.opened, s.openFiles)

/-- The commands that do something to files. -/
def fileCommands : List String := ["open-file", "close-file"]

/-- What a command does to the files, from its arguments and its result. -/
inductive FileStep (s : Service) (arguments : Members) : String → CallResult → Service → Prop
  /-- a file with a path gets the next number, and the result is its handle -/
  | opened {path : String} {form : Json} {after : Service}
    (hpath : required String arguments "path" = .ok path) (hne : path ≠ "")
    (hform : toWire (fileHandle (firstFile + s.opened)) = .ok form)
    (hfiles : after.files = (s.opened + 1, s.openFiles ++ [firstFile + s.opened])) :
    FileStep s arguments "open-file" (.ok form) after
  /-- a handle that is open is closed -/
  | closed {file : FileHandle} {value : Json} {after : Service}
    (hfile : required FileHandle arguments "file" = .ok file)
    (hopen : file ∈ s.openFiles.map fileHandle)
    (hfiles : after.files = (s.opened, s.openFiles.filter (fileHandle · != file))) :
    FileStep s arguments "close-file" (.ok value) after
  /-- what fails does nothing, and it fails if there is no path or the handle is not open -/
  | failed {command : String} {error : RpcError}
    (hpath : command = "open-file" → ∀ path, required String arguments "path" = .ok path →
      path = "")
    (hfile : command = "close-file" → ∀ file, required FileHandle arguments "file" = .ok file →
      file ∉ s.openFiles.map fileHandle) :
    FileStep s arguments command (.error error) s
  | other {command : String} {result : CallResult} {after : Service}
    (hcommand : command ∉ fileCommands) (hfiles : after.files = s.files) :
    FileStep s arguments command result after

section

variable {s : Service} {arguments : Members}

theorem returned_openFile (session number : Nat) : ∃ after result,
    commands.returned session number "open-file" arguments s [] = (after, some result) ∧
      FileStep s arguments "open-file" result after := by
  cases hpath : required String arguments "path" with
  | error error =>
    refine ⟨_, _, returned_of_error rfl number (Attempt.on_lift_bind_of_error hpath _ s),
      .failed ?_ nofun⟩
    exact fun _ path h => nomatch hpath.symm.trans h
  | ok path =>
    have hopen := s.openFile_on path
    rw [← Attempt.lift_bind_of_ok hpath Service.openFile] at hopen
    by_cases hempty : path = ""
    · rw [if_pos (String.isEmpty_iff.mpr hempty)] at hopen
      refine ⟨_, _, returned_of_error rfl number hopen, .failed ?_ nofun⟩
      exact fun _ other h => Except.ok.inj (hpath.symm.trans h) ▸ hempty
    · rw [if_neg (mt String.isEmpty_iff.mp hempty)] at hopen
      exact ⟨_, _, returned_of_ok rfl number hopen, .opened hpath hempty rfl rfl⟩

theorem returned_closeFile (session number : Nat) : ∃ after result,
    commands.returned session number "close-file" arguments s [] = (after, some result) ∧
      FileStep s arguments "close-file" result after := by
  cases hfile : required FileHandle arguments "file" with
  | error error =>
    refine ⟨_, _, returned_of_error rfl number (Attempt.on_lift_bind_of_error hfile _ s),
      .failed nofun ?_⟩
    exact fun _ file h => nomatch hfile.symm.trans h
  | ok file =>
    by_cases hopen : file ∈ s.openFiles.map fileHandle
    · have hclose := s.closeFile_on file
      rw [← Attempt.lift_bind_of_ok hfile Service.closeFile,
        if_pos (by simpa using hopen)] at hclose
      exact ⟨_, _, returned_of_ok rfl number hclose, .closed hfile hopen rfl⟩
    · have hclose : (Service.closeFile file).on s = _ :=
        Service.closeFile_on_of_forall_ne (by simpa using hopen)
      rw [← Attempt.lift_bind_of_ok hfile Service.closeFile] at hclose
      refine ⟨_, _, returned_of_error rfl number hclose, .failed nofun ?_⟩
      exact fun _ other h => Except.ok.inj (hfile.symm.trans h) ▸ hopen

end

/-! #### Commands that have to do with something else -/

theorem keeps_files_putShape (shape : Shape) : (Service.putShape shape).Keeps Service.files := by
  intro s
  rw [Service.putShape_on]
  split <;> rfl

theorem keeps_files_watchShapes (session : Nat) :
    (Service.watchShapes session >>= Service.subscribe session).Keeps Service.files := by
  intro s
  rw [Service.watchShapes_subscribe_on]
  split <;> rfl

theorem keeps_files_putEvent (session : Nat) (tag : Int64) :
    (Service.putEvent session tag).Keeps Service.files := by
  intro s
  rw [Service.putEvent_on]
  rfl

/-- All other commands keep the files. -/
theorem commands_files : ∀ entry ∈ commands, entry.1 ∉ fileCommands →
    ∀ session number arguments (s : Service),
      (entry.2.returned session number arguments s []).1.files = s.files := by
  simp only [commands, List.forall_mem_cons]
  refine ⟨?getPoint, ?putShape, ?queryFlags, ?describe, ?openFile, ?closeFile, ?listColors, ?echo,
    ?ping, ?negotiate, ?watchShapes, ?putEvent, List.forall_mem_nil _⟩
  case openFile | closeFile => exact fun hcommand => absurd (by decide) hcommand
  case ping | negotiate | listColors | echo => exact fun _ _ _ _ _ => rfl
  case queryFlags => exact fun _ _ _ _ => keeps_written (keeps_lift _)
  case getPoint =>
    refine fun _ _ _ _ => keeps_written ?_
    exact (keeps_lift _).bind fun name => keeps_get.bind fun s => keeps_lift (s.point name)
  case putShape =>
    exact fun _ _ _ _ => keeps_written ((keeps_lift _).bind keeps_files_putShape)
  case describe =>
    exact fun _ _ _ _ => keeps_written ((keeps_lift _).bind fun _ => keeps_pure _)
  case watchShapes => exact fun _ session _ _ => keeps_written (keeps_files_watchShapes session)
  case putEvent =>
    refine fun _ session _ _ => keeps_written ?_
    exact (keeps_lift _).bind (keeps_files_putEvent session)

/-- Whatever command is asked for, it returns at once and takes a step with the files. -/
theorem returned_fileStep (session number : Nat) (command : String) (arguments : Members)
    (s : Service) : ∃ after result,
      commands.returned session number command arguments s [] = (after, some result) ∧
        FileStep s arguments command result after := by
  by_cases hopen : command = "open-file"
  · exact hopen ▸ returned_openFile session number
  by_cases hclose : command = "close-file"
  · exact hclose ▸ returned_closeFile session number
  have hcommand : command ∉ fileCommands := by simp [fileCommands, hopen, hclose]
  obtain ⟨after, result, hreturned, -⟩ := returned_effect session number command arguments s
  refine ⟨after, result, hreturned, .other hcommand ?_⟩
  obtain ⟨handler, hmem, heq⟩ | heq := commands.returned_cases command
  · have hfiles := commands_files (command, handler) hmem hcommand session number arguments s
    rwa [← heq session number arguments s [], hreturned] at hfiles
  · rw [heq] at hreturned
    cases hreturned
    rfl

/-! ### Lines -/

/-- A request takes a step with the files. -/
theorem submitLine_fileStep (desk : Desk Service) (session : Nat) {line : String}
    {request : Request} (hrequest : Request.parse? line = some request) :
    let sent := desk.submitLine commands session line
    ∃ result, sent.1.wait sent.2 = some (.ofResult result request.id) ∧
      FileStep desk.state request.arguments request.execute result sent.1.state := by
  intro sent
  obtain ⟨after, result, hreturned, hstep⟩ :=
    returned_fileStep session desk.replies.length request.execute request.arguments desk.state
  obtain ⟨hstate, hwait⟩ := Desk.submitLine_of_returned hrequest hreturned
  exact ⟨result, hwait, hstate.symm ▸ hstep⟩

/-- A response that carries a result. -/
def Succeeds (response : Option Response) : Prop := ∃ value id, response = some ⟨.result value, id⟩

/-- A file is closed just if the argument is a handle that is open. -/
theorem succeeds_closeFile (desk : Desk Service) (session : Nat) {line : String}
    {request : Request} (hrequest : Request.parse? line = some request)
    (hcommand : request.execute = "close-file") :
    let sent := desk.submitLine commands session line
    Succeeds (sent.1.wait sent.2) ↔ ∃ file,
      required FileHandle request.arguments "file" = .ok file ∧
        file ∈ desk.state.openFiles.map fileHandle := by
  intro sent
  obtain ⟨result, hwait, hstep⟩ := submitLine_fileStep desk session hrequest
  show Succeeds (sent.1.wait sent.2) ↔ _
  rw [hwait]
  generalize request.execute = command, sent.1.state = after at hcommand hstep
  cases hstep with
  | opened => exact absurd hcommand (by decide)
  | closed hfile hopen => exact iff_of_true ⟨_, _, rfl⟩ ⟨_, hfile, hopen⟩
  | failed _ hclosed =>
    exact iff_of_false nofun fun ⟨file, hfile, hopen⟩ => hclosed hcommand file hfile hopen
  | other hnot => exact absurd (by simp [hcommand, fileCommands]) hnot

/-! ### What follows from the past -/

/-- Whether a record is that of a line which was answered that it opened a file. -/
def Record.opens (record : Record) : Bool := record.done?.any (·.command == "open-file")

/-- The handle that was given out for the line of a record. -/
def Record.opened? (record : Record) : Option FileHandle :=
  record.done?.bind fun d => if d.command = "open-file" then (ofWire d.value).toOption else none

/-- The handle that was closed for the line of a record. -/
def Record.closed? (record : Record) : Option FileHandle :=
  record.done?.bind fun d =>
    if d.command = "close-file" then (required FileHandle d.arguments "file").toOption else none

/-- How often a line was answered that it opened a file. -/
def openings (past : List Record) : Nat := past.countP Record.opens

/-- The handles that were given out, in that order. -/
def opened (past : List Record) : List FileHandle := past.reverse.filterMap Record.opened?

/-- The handles that were closed, in that order. -/
def closed (past : List Record) : List FileHandle := past.reverse.filterMap Record.closed?

/-- The handles that were given out and not closed. -/
def stillOpen (past : List Record) : List FileHandle := (opened past).filter (· ∉ closed past)

section

variable {record : Record} (past : List Record)

theorem filterMap_of_none {α : Type} {f : Record → Option α} (h : f record = none) :
    (record :: past).reverse.filterMap f = past.reverse.filterMap f := by
  rw [List.reverse_cons, List.filterMap_append, List.filterMap_cons_none h, List.filterMap_nil,
    List.append_nil]

/-- What comes from a later record comes later. -/
theorem filterMap_of_some {α : Type} {f : Record → Option α} {value : α}
    (h : f record = some value) :
    (record :: past).reverse.filterMap f = past.reverse.filterMap f ++ [value] := by
  rw [List.reverse_cons, List.filterMap_append, List.filterMap_cons_some h, List.filterMap_nil]

theorem openings_of_ne (h : ∀ d ∈ record.done?, d.command ≠ "open-file") :
    openings (record :: past) = openings past ∧ opened (record :: past) = opened past := by
  refine ⟨List.countP_cons_of_neg ?_, filterMap_of_none past ?_⟩
  · rw [Record.opens, Option.any_eq_true_iff_get]
    exact fun ⟨hsome, hcommand⟩ => h _ (Option.get_mem hsome) (beq_iff_eq.mp hcommand)
  · exact Option.bind_eq_none_iff.mpr fun d hd => if_neg (h d hd)

theorem closed_of_ne (h : ∀ d ∈ record.done?, d.command ≠ "close-file") :
    closed (record :: past) = closed past :=
  filterMap_of_none past (Option.bind_eq_none_iff.mpr fun d hd => if_neg (h d hd))

variable {d : Done} {file : FileHandle} (hdone : record.done? = some d)

include hdone

theorem openings_of_open (hcommand : d.command = "open-file") (hvalue : ofWire d.value = .ok file) :
    openings (record :: past) = openings past + 1 ∧
      opened (record :: past) = opened past ++ [file] := by
  refine ⟨List.countP_cons_of_pos ?_, filterMap_of_some past ?_⟩
  · rw [Record.opens, hdone, Option.any_some, hcommand, beq_self_eq_true]
  · rw [Record.opened?, hdone, Option.bind_some, if_pos hcommand, hvalue]
    rfl

theorem closed_of_close (hcommand : d.command = "close-file")
    (hfile : required FileHandle d.arguments "file" = .ok file) :
    closed (record :: past) = closed past ++ [file] := by
  refine filterMap_of_some past ?_
  rw [Record.closed?, hdone, Option.bind_some, if_pos hcommand, hfile]
  rfl

end

/-! ### One action -/

/-- A count of files ever opened, and numbers of open files, that are as the past says. -/
structure Filed (count : Nat) (numbers : List Nat) (past : List Record) : Prop where
  counted : count = openings past
  /-- what was given out are the numbers up to the count -/
  numbered : opened past = (List.range' firstFile count).map fileHandle
  current : numbers.map fileHandle = stillOpen past
  increasing : numbers.Pairwise (· < ·)
  below : ∀ number ∈ numbers, number < firstFile + count
  /-- nothing is closed twice -/
  nodup : (closed past).Nodup
  given : closed past ⊆ opened past

theorem filed_nil : Filed 0 [] [] :=
  ⟨rfl, rfl, rfl, .nil, List.forall_mem_nil _, .nil, List.nil_subset _⟩

/-- The number of a handle, as long as it fits. -/
theorem fileHandle_number {number : Nat} (h : number < 2 ^ 63) :
    (fileHandle number).number.toInt = number :=
  Int64.toInt_ofNat_of_lt h

theorem map_fileHandle_number {numbers : List Nat} (h : ∀ number ∈ numbers, number < 2 ^ 63) :
    (numbers.map fileHandle).map (·.number.toInt) = numbers.map Nat.cast := by
  rw [List.map_map]
  exact List.map_congr_left fun number hnumber => fileHandle_number (h number hnumber)

namespace Filed

variable {count : Nat} {numbers : List Nat} {past : List Record} {record : Record}
  (h : Filed count numbers past)

include h

/-- The next handle was not given out before. -/
theorem next_notMem (hfew : firstFile + count < 2 ^ 63) :
    fileHandle (firstFile + count) ∉ opened past := by
  rw [h.numbered]
  intro hmem
  obtain ⟨number, hnumber, heq⟩ := List.mem_map.mp hmem
  have hlt : number < firstFile + count := (List.mem_range'_1.mp hnumber).2
  have hequal := congrArg (·.number.toInt) heq
  simp only [fileHandle_number hfew, fileHandle_number (hlt.trans hfew)] at hequal
  omega

/-- Nothing else does anything to the files. -/
theorem kept (hkept : ∀ d ∈ record.done?, d.command ∉ fileCommands) :
    Filed count numbers (record :: past) := by
  obtain ⟨hcount, hopened⟩ := openings_of_ne past fun d hd hcommand =>
    hkept d hd (hcommand ▸ by decide)
  have hclosed := closed_of_ne past fun d hd hcommand => hkept d hd (hcommand ▸ by decide)
  refine ⟨hcount ▸ h.counted, hopened ▸ h.numbered, ?_, h.increasing, h.below,
    hclosed ▸ h.nodup, ?_⟩
  · rw [stillOpen, hopened, hclosed, ← stillOpen, h.current]
  · rw [hopened, hclosed]
    exact h.given

variable {d : Done} (hdone : record.done? = some d)

include hdone

/-- The next number is given out. -/
theorem «open» (hfew : firstFile + count < 2 ^ 63) (hcommand : d.command = "open-file")
    (hvalue : ofWire d.value = .ok (fileHandle (firstFile + count))) :
    Filed (count + 1) (numbers ++ [firstFile + count]) (record :: past) := by
  obtain ⟨hcount, hopened⟩ := openings_of_open past hdone hcommand hvalue
  have hclosed : closed (record :: past) = closed past := by
    refine closed_of_ne past fun other hother hclose => ?_
    obtain rfl := Option.some.inj (hdone.symm.trans hother)
    exact absurd (hcommand.symm.trans hclose) (by decide)
  have hnew : fileHandle (firstFile + count) ∉ closed past :=
    fun hmem => h.next_notMem hfew (h.given hmem)
  constructor
  case counted => rw [hcount, ← h.counted]
  case numbered =>
    rw [hopened, h.numbered, List.range'_1_concat, List.map_append]
    rfl
  case current =>
    rw [stillOpen, hopened, hclosed, List.filter_append, ← stillOpen, ← h.current, List.map_append]
    simp [hnew]
  case increasing =>
    refine List.pairwise_append.mpr ⟨h.increasing, List.pairwise_singleton _ _, ?_⟩
    simpa using h.below
  case below =>
    intro number hnumber
    rcases List.mem_append.mp hnumber with hnumber | hnumber
    · exact (h.below number hnumber).trans (Nat.lt_succ_self _)
    · exact List.mem_singleton.mp hnumber ▸ Nat.lt_succ_self _
  case nodup => exact hclosed ▸ h.nodup
  case given =>
    rw [hopened, hclosed]
    exact List.subset_append_of_subset_left _ h.given

/-- A handle that is open is closed. -/
theorem close {file : FileHandle} (hcommand : d.command = "close-file")
    (hfile : required FileHandle d.arguments "file" = .ok file)
    (hopen : file ∈ numbers.map fileHandle) :
    Filed count (numbers.filter (fileHandle · != file)) (record :: past) := by
  have hclosed := closed_of_close past hdone hcommand hfile
  obtain ⟨hcount, hopened⟩ : openings (record :: past) = openings past ∧
      opened (record :: past) = opened past := by
    refine openings_of_ne past fun other hother hopens => ?_
    obtain rfl := Option.some.inj (hdone.symm.trans hother)
    exact absurd (hcommand.symm.trans hopens) (by decide)
  rw [h.current, stillOpen, List.mem_filter, decide_eq_true_eq] at hopen
  obtain ⟨hgiven, hnew⟩ := hopen
  constructor
  case counted => exact hcount ▸ h.counted
  case numbered => exact hopened ▸ h.numbered
  case current =>
    have hcomp : (fun number => fileHandle number != file) = (· != file) ∘ fileHandle := rfl
    rw [hcomp, ← List.filter_map, h.current, stillOpen, stillOpen, hopened, hclosed,
      List.filter_filter]
    refine List.filter_congr fun other _ => ?_
    rw [Bool.eq_iff_iff]
    simp [and_comm]
  case increasing => exact h.increasing.filter _
  case below => exact fun number hnumber => h.below number (List.mem_of_mem_filter hnumber)
  case nodup =>
    rw [hclosed, ← List.concat_eq_append]
    exact h.nodup.concat hnew
  case given =>
    rw [hclosed, hopened]
    exact List.append_subset.mpr ⟨h.given, by simpa using hgiven⟩

end Filed

theorem Filed.of_files {s : Service} {count : Nat} {numbers : List Nat} {past : List Record}
    (hfiles : s.files = (count, numbers)) (h : Filed count numbers past) :
    Filed s.opened s.openFiles past := by
  obtain ⟨hcount, hnumbers⟩ := Prod.mk.inj hfiles
  rwa [hcount, hnumbers]

/-- What a command does to the files is as the record of its line says. -/
theorem Filed.step {s after : Service} {past : List Record}
    (h : Filed s.opened s.openFiles past) (hfew : firstFile + s.opened < 2 ^ 63) {n : Nat}
    {command : String} {arguments : Members} {result : CallResult} {record : Record}
    (hstep : FileStep s arguments command result after)
    (hdone : record.done? = resultOf n command arguments result) :
    Filed after.opened after.openFiles (record :: past) := by
  cases hstep with
  | opened _ _ hform hfiles =>
    exact .of_files hfiles (h.open hdone hfew rfl (Faithful.ofWire_toWire _ _ hform))
  | closed hfile hopen hfiles =>
    exact .of_files hfiles (h.close hdone rfl hfile hopen)
  | failed => exact h.kept (hdone ▸ nofun)
  | other hcommand hfiles =>
    refine .of_files hfiles (h.kept fun d hd => ?_)
    rw [hdone] at hd
    cases result with
    | error error => cases hd
    | ok value =>
      cases hd
      exact hcommand

/-- What a line does to the files is as its record says. -/
theorem Filed.line {desk : Desk Service} {past : List Record}
    (h : Filed desk.state.opened desk.state.openFiles past)
    (hfew : firstFile + desk.state.opened < 2 ^ 63) (n : Nat) (line : String) :
    let sent := desk.submitLine commands n line
    Filed sent.1.state.opened sent.1.state.openFiles
      (.answered n line (sent.1.wait sent.2) :: past) := by
  intro sent
  cases hrequest : Request.parse? line with
  | none =>
    have hsent : sent = _ := desk.submitLine_of_malformed commands n line hrequest
    rw [hsent]
    exact h.kept nofun
  | some request =>
    obtain ⟨result, hwait, hstep⟩ := submitLine_fileStep desk n hrequest
    refine h.step hfew hstep (n := n) ?_
    rw [hwait]
    exact done?_ofResult hrequest n result request.id

/-- Any action leaves the files as its record says. -/
theorem Filed.next {d : Diary} (h : Filed d.desk.state.opened d.desk.state.openFiles d.past)
    (hfew : firstFile + d.desk.state.opened < 2 ^ 63) (action : Action) :
    let after := d.next action
    Filed after.desk.state.opened after.desk.state.openFiles after.past := by
  intro after
  cases action with
  | «open» limit => exact h.kept nofun
  | close n => exact h.kept nofun
  | drain n => exact h.kept nofun
  | send n line =>
    by_cases hopen : (d.hub.session? n).isSome
    · have hafter : after = ⟨_, _⟩ := if_pos hopen
      rw [hafter]
      exact h.line hfew n line
    · have hafter : after = d := if_neg hopen
      rw [hafter]
      exact h

/-! ### Runs -/

/-- An action only adds to the past. -/
theorem past_suffix_next (d : Diary) (action : Action) : d.past <:+ (d.next action).past := by
  cases action with
  | «open» limit => exact List.suffix_cons _ _
  | close n => exact List.suffix_cons _ _
  | drain n => exact List.suffix_cons _ _
  | send n line =>
    rw [Diary.next]
    split
    · exact List.suffix_cons _ _
    · exact List.suffix_rfl

/-- After a run the files are as the past says, as long as there are numbers for them. -/
theorem filed_run (actions : List Action) (hfew : openings (run actions).past < 2 ^ 62) :
    let d := run actions
    Filed d.desk.state.opened d.desk.state.openFiles d.past := by
  -- from the end, as the bound is on the whole past
  induction actions using List.reverseRecOn with
  | nil => exact filed_nil
  | append_singleton actions action ih =>
    have hrun : run (actions ++ [action]) = (run actions).next action := List.foldl_concat ..
    rw [hrun] at hfew ⊢
    have hearlier : openings (run actions).past < 2 ^ 62 :=
      (past_suffix_next _ action).countP_le.trans_lt hfew
    have h := ih hearlier
    refine h.next ?_ action
    rw [h.counted, firstFile]
    omega

/-- Whatever clients do in whatever sessions, the handles that they are answered with have the
numbers from three on, in this order, so none is given out twice. The open files are those whose
handles were given out and not closed, in increasing order. A file is closed just if the argument is
the handle of an open one, so none is closed twice, and none that was not given out. This holds as
long as there are numbers for the handles. -/
theorem files_tracked (actions : List Action) (hfew : openings (run actions).past < 2 ^ 62) :
    let desk := (run actions).desk
    let past := (run actions).past
    (opened past).map (·.number.toInt) = (List.range' 3 (openings past)).map Nat.cast ∧
    (opened past).Nodup ∧
    desk.state.openFiles.map Nat.cast = (stillOpen past).map (·.number.toInt) ∧
    desk.state.openFiles.Pairwise (· < ·) ∧
    (∀ session line request, Request.parse? line = some request → request.execute = "close-file" →
      let sent := desk.submitLine commands session line
      (Succeeds (sent.1.wait sent.2) ↔ ∃ file,
        required FileHandle request.arguments "file" = .ok file ∧ file ∈ stillOpen past)) ∧
    (closed past).Nodup ∧ closed past ⊆ opened past := by
  intro desk past
  have h : Filed desk.state.opened desk.state.openFiles past := filed_run actions hfew
  have hcount : desk.state.opened < 2 ^ 62 := h.counted.trans_lt hfew
  have hnumbers : (opened past).map (·.number.toInt) =
      (List.range' 3 (openings past)).map Nat.cast := by
    rw [h.numbered, h.counted]
    refine map_fileHandle_number fun number hnumber => ?_
    have hlt := (List.mem_range'_1.mp hnumber).2
    rw [firstFile, ← h.counted] at hlt
    omega
  have hopened : (opened past).Nodup := by
    refine .of_map (·.number.toInt) ?_
    rw [hnumbers]
    exact List.Nodup.map (fun _ _ => Int.natCast_inj.mp) List.nodup_range'
  have hfiles : desk.state.openFiles.map Nat.cast = (stillOpen past).map (·.number.toInt) := by
    rw [← h.current]
    refine (map_fileHandle_number fun number hnumber => ?_).symm
    have hlt := h.below number hnumber
    rw [firstFile] at hlt
    omega
  refine ⟨hnumbers, hopened, hfiles, h.increasing, ?_, h.nodup, h.given⟩
  intro session line request hrequest hcommand
  rw [← h.current]
  exact succeeds_closeFile desk session hrequest hcommand

/-- The line that opens a file. -/
def openLine (path : String) : String := Request.text ⟨"open-file", [("path", .string path)], none⟩

/-- The arguments with which a file is closed. -/
def closeArguments (file : FileHandle) : Members :=
  [("file", wrapHandle "FileHandle" (.int file.number.toInt))]

/-- The line that closes a file. -/
def closeLine (file : FileHandle) : String :=
  Request.text ⟨"close-file", closeArguments file, none⟩

theorem required_closeArguments (file : FileHandle) :
    required FileHandle (closeArguments file) "file" = .ok file :=
  required_eq_ok rfl (Faithful.ofWire_toWire file _ rfl)

theorem parse?_closeLine (file : FileHandle) :
    Request.parse? (closeLine file) = some ⟨"close-file", closeArguments file, none⟩ := by
  have hfile : Fits 1 (wrapHandle "FileHandle" (.int file.number.toInt)) :=
    Bounded.fits_toWire file _ (List.forall_mem_nil _) rfl
  exact Request.parse?_text
    (.object (List.nodup_singleton _) (List.forall_mem_singleton.mpr (hfile.mono (by decide))))
    isIdentification_none

/-- A session opens two files and closes the first one. -/
def errand : List Action :=
  .open 1 :: [openLine "a", openLine "b", closeLine (fileHandle 3)].map (.send 0)

/-- The first file cannot be closed again. -/
theorem files_tracked_errand :
    (opened (run errand).past).map (·.number.toInt) = [3, 4] ∧
      (run errand).desk.state.openFiles = [4] ∧
      let sent := (run errand).desk.submitLine commands 0 (closeLine (fileHandle 3))
      ¬Succeeds (sent.1.wait sent.2) := by
  obtain ⟨hopenings, hopen⟩ :
      openings (run errand).past = 2 ∧ (run errand).desk.state.openFiles = [4] := by
    decide +kernel
  have hfew : openings (run errand).past < 2 ^ 62 := by
    rw [hopenings]
    decide
  obtain ⟨hnumbers, -, hfiles, -, hclose, -⟩ := files_tracked errand hfew
  rw [hopenings] at hnumbers
  rw [hopen] at hfiles
  refine ⟨hnumbers.trans (by decide), hopen, fun hsucceeds => ?_⟩
  have hparse := parse?_closeLine (fileHandle 3)
  obtain ⟨file, hfile, hmem⟩ := (hclose 0 _ _ hparse rfl).mp hsucceeds
  have hread := required_closeArguments (fileHandle 3)
  obtain rfl := Except.ok.inj (hread.symm.trans hfile)
  have hnumber := List.mem_map_of_mem (f := fun file : FileHandle => file.number.toInt) hmem
  rw [← hfiles, fileHandle_number (by decide)] at hnumber
  simp at hnumber

end RpcSchema.Drawing
