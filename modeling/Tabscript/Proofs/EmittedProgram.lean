import Tabscript.Proofs.FolderLocality
import Tabscript.Proofs.RequestStages
import Tabscript.Session

/-! The program that is emitted and the program that is run.

A command line that emits a script and a request that runs it put their stages together
separately. On every host they generate the same source, and a script that cannot be
emitted fails in the request with the same fault and before the host is asked for
anything. On files, emitting opens nothing but its output, and opens that only once the
whole program is there; so it changes one file or none. -/
namespace Tabscript.EmittedProgram
open HostTranscript RequestStages FileTree TreeLookups FolderPaths FolderLocality CommandLine

/-- Emitting the script prints this source. -/
def Emits (script source : String) : Prop :=
  writeProgram script none = .done ⟨0, source, ""⟩

/-- What a host was asked to write, in order. -/
def writes (events : List Event) : List (String × List UInt8) :=
  events.filterMap fun event =>
    match event.effect with
    | .writeFile path bytes => some (path, bytes)
    | _ => none

/-- The folders that were opened for requests, by the paths that the host gave. -/
def openings (events : List Event) : List String :=
  events.filterMap fun
    | ⟨.resolve _, reply⟩ => (reply : Except IoFault String).toOption
    | _ => none

/-- The host makes a folder when it is asked to, and gives `dir` as the path of it. -/
def Grants {σ : Type} (host : (effect : Effect) → StateM σ effect.Reply) (start : σ) (folder dir : String) : Prop :=
  (host (.makeFolders folder) start).1 = .ok () ∧
    (host (.resolve folder) (host (.makeFolders folder) start).2).1 = .ok dir

/-- The place that a path opens for writing: in a folder that is there, and not itself a folder. -/
def Opens (t : FileTree) (cwd : Location) (file : String) (place : Location) : Prop :=
  pathFault file = none ∧ Path.endsInSlash file = false ∧
    ∃ front name folder, Path.pieces file = front ++ [name] ∧ ¬ (name = "." ∨ name = "..") ∧ tooLong name = false ∧
      t.followFolder (start cwd file) front = .ok folder ∧ place = folder ++ [name] ∧ t.get? place ≠ some .folder

section Translation

variable {script source : String} {statements : List Statement} {fault : Fault}

theorem emits_iff : Emits script source ↔
    ∃ statements, Script.translate script = .ok statements ∧ source = (Program.assemble statements).source := by
  unfold Emits writeProgram
  constructor
  · intro emitted
    split at emitted
    · have exits := congrArg Transcript.exit (Plan.done.inj emitted)
      cases exits
    · rename_i statements translated
      have prints := congrArg Transcript.stdout (Plan.done.inj emitted)
      exact ⟨statements, translated, prints.symm⟩
  · rintro ⟨statements, translated, rfl⟩
    rw [translated]
    rfl

private theorem emit_refused (refused : Script.translate script = .error fault) (output : Option String) :
    writeProgram script output = .done (failure "Translating script" fault.message) := by
  rw [writeProgram, refused]
  rfl

end Translation

section Requests

variable {config : Config} {id script source : String} {events : List Event} {ws : Workspace}

@[simp] theorem writes_append (first rest : List Event) : writes (first ++ rest) = writes first ++ writes rest :=
  List.filterMap_append

@[simp] theorem openings_append (first rest : List Event) :
    openings (first ++ rest) = openings first ++ openings rest :=
  List.filterMap_append

/-- Neither writes a file nor opens a folder. -/
def Quiet (events : List Event) : Prop :=
  writes events = [] ∧ openings events = []

/-- The request asks for its folder, and once that is made for the path of it; where it is
given a path, the folder there is the one that it opens. -/
inductive Seeks (config : Config) (id : String) : List Event → Prop where
  | refused (e : IoFault) : Seeks config id [⟨.makeFolders (folder config id), .error e⟩]
  | made {found : Except IoFault String} {rest : List Event} (closed : openings rest = []) :
    Seeks config id (⟨.makeFolders (folder config id), .ok ()⟩ :: ⟨.resolve (folder config id), found⟩ :: rest)

/-- A workspace that was not opened has written nothing; one that was has only asked for its folder. -/
theorem create_opens {keep : Bool} {result : Except Fault Workspace}
    (run : Runs (Workspace.create config.workspaceRoot id keep) events result) :
    (∃ fault, result = .error fault ∧ Seeks config id events ∧ writes events = [] ∧ openings events = []) ∨
      ∃ dir, result = .ok ⟨dir, keep⟩ ∧ events = opening config id dir := by
  obtain ⟨made, rest, rfl, run⟩ := run
  cases made with
  | error e =>
    obtain ⟨rfl, rfl⟩ := run
    exact .inl ⟨_, rfl, .refused e, rfl, rfl⟩
  | ok _ =>
    obtain ⟨resolved, rest, rfl, run⟩ := run
    cases resolved with
    | error e =>
      obtain ⟨rfl, rfl⟩ := run
      exact .inl ⟨_, rfl, .made rfl, rfl, rfl⟩
    | ok path =>
      obtain ⟨rfl, rfl⟩ := run
      exact .inr ⟨path, rfl, rfl⟩

theorem compile_writes {result : Except Fault String} (run : Runs (Build.compile config ws source) events result) :
    writes events = [(ws.sourcePath, Text.encode source)] ∧ openings events = [] := by
  obtain ⟨written, rest, rfl, run⟩ := run
  cases written with
  | error e =>
    obtain ⟨rfl, rfl⟩ := run
    exact ⟨rfl, rfl⟩
  | ok _ =>
    obtain ⟨reply, rest, rfl, run⟩ := run
    cases reply with
    | refused e =>
      obtain ⟨rfl, rfl⟩ := run
      exact ⟨rfl, rfl⟩
    | overran =>
      obtain ⟨rfl, rfl⟩ := run
      exact ⟨rfl, rfl⟩
    | ended stdout stderr status =>
      dsimp only [Plan.bind] at run
      split at run
      · obtain ⟨rfl, rfl⟩ := run
        exact ⟨rfl, rfl⟩
      · obtain ⟨present, rest, rfl, run⟩ := run
        cases present with
        | false =>
          obtain ⟨rfl, rfl⟩ := run
          exact ⟨rfl, rfl⟩
        | true =>
          obtain ⟨rfl, rfl⟩ := run
          exact ⟨rfl, rfl⟩

theorem execute_quiet {binary : String} {result : Except Fault RunOutput}
    (run : Runs (Execution.run config binary) events result) : Quiet events := by
  obtain ⟨reply, rest, rfl, run⟩ := run
  cases reply with
  | refused e =>
    obtain ⟨rfl, rfl⟩ := run
    exact ⟨rfl, rfl⟩
  | overran =>
    obtain ⟨rfl, rfl⟩ := run
    exact ⟨rfl, rfl⟩
  | ended stdout stderr status =>
    obtain ⟨rfl, rfl⟩ := run
    exact ⟨rfl, rfl⟩

theorem close_quiet {α : Type} {answer result : α} (run : Runs (do ws.close; return answer) events result) :
    Quiet events ∧ result = answer := by
  obtain ⟨first, _, rest, rfl, closed, rfl, rfl⟩ := runs_bind.mp run
  refine ⟨?_, rfl⟩
  rw [Workspace.close] at closed
  split at closed
  · obtain ⟨rfl, _⟩ := closed
    exact ⟨rfl, rfl⟩
  · obtain ⟨_, rest, rfl, rfl, _⟩ := closed
    exact ⟨rfl, rfl⟩

/-- What a request has done when it stops, by whether its script can be translated. -/
def Drove (config : Config) (id script : String) (events : List Event) (after : Course)
    (result : Except Fault RunOutput) : Prop :=
  match Script.translate script with
  | .error fault => Stage.building ∉ after.entered ∧ result = .error fault ∧ events = []
  | .ok statements => Stage.building ∈ after.entered ∧ Seeks config id events ∧ writes events =
      (openings events).map fun dir => (sourceIn dir, Text.encode (Program.assemble statements).source)

theorem drive_drove {after : Course} {result : Except Fault RunOutput}
    (run : Runs (Pipeline.drive config id script ⟨.idle, []⟩) events (after, result)) :
    Drove config id script events after result := by
  rw [Pipeline.drive] at run
  rw [Drove, Script.translate]
  cases parsed : Script.parse (Script.commands script) with
  | error fault =>
    rw [parsed] at run
    obtain ⟨rfl, same⟩ := run
    cases same
    exact ⟨by decide, rfl, rfl⟩
  | ok calls =>
    rw [parsed] at run
    dsimp only at run ⊢
    cases validated : Script.validate calls with
    | error fault =>
      rw [validated] at run
      obtain ⟨rfl, same⟩ := run
      cases same
      exact ⟨by decide, rfl, rfl⟩
    | ok statements =>
      rw [validated] at run
      dsimp only at run ⊢
      obtain ⟨first, opened, rest, rfl, created, more⟩ := runs_bind.mp run
      obtain ⟨fault, rfl, seeks, unwritten, unopened⟩ | ⟨dir, rfl, rfl⟩ := create_opens created
      · obtain ⟨rfl, same⟩ := more
        cases same
        rw [List.append_nil, unwritten, unopened]
        exact ⟨by decide, seeks, rfl⟩
      · dsimp only at more
        obtain ⟨second, built, rest, rfl, compiled, closing⟩ := runs_bind.mp more
        obtain ⟨written, unopened⟩ := compile_writes compiled
        have whole {last : List Event} (quiet : Quiet last) :
            Seeks config id (opening config id dir ++ (second ++ last)) ∧
              writes (opening config id dir ++ (second ++ last)) =
                (openings (opening config id dir ++ (second ++ last))).map
                  fun dir => (sourceIn dir, Text.encode (Program.assemble statements).source) := by
          have closed : openings (second ++ last) = [] := by rw [openings_append, unopened, quiet.2]; rfl
          refine ⟨.made closed, ?_⟩
          rw [writes_append, writes_append, openings_append, closed, written, quiet.1]
          rfl
        cases built with
        | error fault =>
          obtain ⟨quiet, same⟩ := close_quiet closing
          cases same
          exact ⟨by decide, whole quiet⟩
        | ok binary =>
          obtain ⟨third, found, rest, rfl, executed, last⟩ := runs_bind.mp closing
          obtain ⟨quiet, same⟩ := close_quiet last
          cases same
          have ran := execute_quiet executed
          refine ⟨by decide, whole ⟨?_, ?_⟩⟩
          · rw [writes_append, ran.1, quiet.1]
            rfl
          · rw [openings_append, ran.2, quiet.2]
            rfl

theorem run_drove {report : Report} (run : Runs (Pipeline.run config id script) events report) :
    ∃ after : Course, after.entered = report.entered ∧ Drove config id script events after report.result := by
  obtain ⟨first, ⟨after, result⟩, rest, rfl, drove, rfl, rfl⟩ := runs_bind.mp run
  rw [List.append_nil]
  exact ⟨after, rfl, drive_drove drove⟩

/-- Whoever seeks a folder opens at most one, and it is the one that the host grants. -/
theorem seeks_opens {α σ : Type} {host : (effect : Effect) → StateM σ effect.Reply} {plan : Plan α} {start : σ}
    (seeks : Seeks config id (transcript host plan start)) :
    (openings (transcript host plan start)).length ≤ 1 ∧
      ∀ dir, openings (transcript host plan start) = [dir] ↔ Grants host start (folder config id) dir := by
  generalize asked : transcript host plan start = events at seeks
  cases seeks with
  | refused e =>
    obtain ⟨refused, _⟩ := transcript_head asked
    refine ⟨Nat.zero_le 1, fun dir => ⟨fun none => absurd none (by simp [openings]), fun granted => ?_⟩⟩
    cases refused.trans granted.1
  | @made found rest closed =>
    obtain ⟨made, later, behind⟩ := transcript_head asked
    obtain ⟨resolved, _⟩ := transcript_head behind.symm
    have opened : openings (⟨.makeFolders (folder config id), .ok ()⟩ :: ⟨.resolve (folder config id), found⟩ :: rest) =
        found.toOption.toList := by
      cases found with
      | error e => exact closed
      | ok dir => exact congrArg (List.cons dir) closed
    rw [opened]
    refine ⟨by cases found <;> simp [Except.toOption], fun dir => ⟨fun only => ⟨made.symm, ?_⟩, fun granted => ?_⟩⟩
    · cases found with
      | error e => cases only
      | ok path =>
        cases only
        exact resolved.symm
    · have path : found = .ok dir := resolved.trans granted.2
      rw [path]
      rfl

end Requests

section Files

variable {t : FileTree} {cwd l m place : Location} {file : String} {ps : List String}

/-- What is put where no folder was blocks no path that led to a folder before. -/
private theorem follow_folder_put (node : Node) (inner : place ≠ []) (free : t.get? place ≠ some .folder)
    (led : t.followFolder l ps = .ok m) : (t.put place node).followFolder l ps = .ok m := by
  rw [followFolder] at led ⊢
  induction ps generalizing l with
  | nil =>
    rw [List.nil_append, follow_step (.inl rfl)] at led ⊢
    exact led
  | cons piece more ih =>
    rw [List.cons_append] at led ⊢
    by_cases step : piece = "." ∨ piece = ".."
    · rw [follow_step step] at led ⊢
      exact ih led
    · rw [follow_name step] at led ⊢
      split at led
      · cases led
      · rename_i fits
        rw [if_neg fits]
        split at led
        · cases led
        · rename_i there
          have apart : l ++ [piece] ≠ place := by
            rintro rfl
            exact free there
          simpa [inner, apart, there] using ih led
        · simp at led

private theorem opens_inner (opens : Opens t cwd file place) : place ≠ [] := by
  obtain ⟨_, _, front, name, folder, _, _, _, _, rfl, _⟩ := opens
  simp

private theorem path_accepted (accepted : pathFault file = none) : hasNul file = false ∧ pathTooLong file = false := by
  unfold pathFault at accepted
  split at accepted
  · cases accepted
  · rename_i plain
    split at accepted
    · cases accepted
    · rename_i short
      exact ⟨Bool.eq_false_iff.mpr plain, Bool.eq_false_iff.mpr short⟩

private theorem path_filled {front : List String} {name : String} (pieces : Path.pieces file = front ++ [name]) :
    file.isEmpty = false := by
  apply Bool.eq_false_iff.mpr
  intro empty
  rw [String.isEmpty_iff.mp empty] at pieces
  have none : Path.pieces "" = [] := rfl
  simp [none] at pieces

/-- After writing, the path leads to the place that it opened. -/
private theorem opens_located (opens : Opens t cwd file place) (content : List UInt8) :
    (t.put place (.file content)).locate cwd file = .ok place := by
  have inner := opens_inner opens
  obtain ⟨accepted, unclosed, front, name, folder, pieces, down, short, led, rfl, free⟩ := opens
  obtain ⟨plain, fits⟩ := path_accepted accepted
  have path : steps file = front ++ [name] := by
    rw [steps, unclosed, pieces]
    rfl
  rw [locate, plain, path_filled pieces, fits, path]
  have landed := follow_folder_put (.file content) inner free led
  have last : (t.put (folder ++ [name]) (.file content)).follow folder [name] = .ok (folder ++ [name]) := by
    rw [follow_name down, short]
    simp
  exact (follow_through landed [name]).trans last

theorem write_opened (opens : Opens t cwd file place) (content : List UInt8) :
    t.writeFile cwd file content = (.ok (), t.put place (.file content)) := by
  obtain ⟨accepted, unclosed, front, name, folder, pieces, down, short, led, rfl, free⟩ := opens
  obtain ⟨plain, fits⟩ := path_accepted accepted
  have moves : (name = "." || name = "..") = false := by simpa using down
  rw [writeFile, plain, path_filled pieces, fits]
  simp only [pieces, List.getLast?_concat, List.dropLast_concat, led, moves, short, unclosed]
  cases found : t.get? (folder ++ [name]) with
  | none => rfl
  | some node =>
    cases node with
    | folder => exact absurd found free
    | file old => rfl

theorem write_refused (closed : ∀ place, ¬ Opens t cwd file place) (content : List UInt8) :
    ∃ e, t.writeFile cwd file content = (.error e, t) := by
  unfold writeFile
  split
  · exact ⟨_, rfl⟩
  rename_i plain
  split
  · exact ⟨_, rfl⟩
  split
  · exact ⟨_, rfl⟩
  rename_i fits
  dsimp only
  split
  · exact ⟨_, rfl⟩
  rename_i name last
  split
  · exact ⟨_, rfl⟩
  rename_i folder led
  split
  · exact ⟨_, rfl⟩
  rename_i moves
  split
  · exact ⟨_, rfl⟩
  rename_i short
  cases slash : Path.endsInSlash file with
  | true =>
    cases t.get? (folder ++ [name]) with
    | none => exact ⟨_, rfl⟩
    | some node => cases node <;> exact ⟨_, rfl⟩
  | false =>
    by_cases taken : t.get? (folder ++ [name]) = some .folder
    · rw [taken]
      exact ⟨_, rfl⟩
    · -- Nothing else keeps the place from being opened.
      have pieces := (List.dropLast_append_getLast? name last).symm
      refine absurd ⟨?_, slash, _, name, folder, pieces, ?_, ?_, led, rfl, taken⟩ (closed (folder ++ [name]))
      · rw [pathFault, if_neg plain, if_neg fits]
      · simpa using moves
      · exact Bool.eq_false_iff.mpr short

end Files

section Reading

variable {α β : Type} {host : (effect : Effect) → StateM FileTree effect.Reply}

/-- A plan that leaves all files as they are. -/
def Still (host : (effect : Effect) → StateM FileTree effect.Reply) (plan : Plan α) : Prop :=
  ∀ t, (plan.run host t).2 = t

theorem still_done (a : α) : Still host (.done a) :=
  fun _ => rfl

theorem still_bind {plan : Plan α} {next : α → Plan β} (first : Still host plan)
    (rest : ∀ a, Still host (next a)) : Still host (plan >>= next) := by
  intro t
  rw [run_bind, rest, first]

variable {cwd : Location} {input : List UInt8} {launch : Invocation → StateM FileTree Launch}

theorem read_still (path : String) : Still (answer cwd input launch) (readTextFile path) := by
  refine still_bind (fun _ => rfl) fun reply => ?_
  cases reply <;> exact still_done _

theorem load_script_still (path : String) : Still (answer cwd input launch) (loadScript path) := by
  unfold loadScript
  split
  · refine still_bind (fun _ => rfl) fun bytes => ?_
    split <;> exact still_done _
  · refine still_bind (read_still path) fun reply => ?_
    cases reply <;> exact still_done _

theorem load_config_still (tempDir : String) (path : Option String) :
    Still (answer cwd input launch) (loadConfig tempDir path) := by
  cases path with
  | none => exact still_done _
  | some file =>
    refine still_bind (read_still file) fun reply => ?_
    cases reply with
    | error e => exact still_done _
    | ok text =>
      dsimp only
      split <;> exact still_done _

end Reading

section CommandLines

variable {cwd : Location} {input : List UInt8} {launch : Invocation → StateM FileTree Launch} {t : FileTree}
variable {setting : Setting} {words : List String} {globals : Globals} {path source : String} {output : Option String}

/-- All that it takes to emit a source: the configuration and the script can be loaded, the
script can be translated, and the output, if it is a file, can be opened. -/
structure Emittable (cwd : Location) (host : (effect : Effect) → StateM FileTree effect.Reply) (setting : Setting)
    (globals : Globals) (path : String) (output : Option String) (t : FileTree) (source : String) : Prop where
  configured : ∃ config, ((loadConfig setting.tempDir globals.config).run host t).1 = .ok config
  translated : ∃ script, ((loadScript path).run host t).1 = .ok script ∧ Emits script source
  opens : ∀ file, output = some file → ∃ place, Opens t cwd file place

/-- The source was printed and no file changed, or nothing was printed and the source is
the content of the output file, which is the only one that changed. -/
def Emitted (cwd : Location) (output : Option String) (source : String) (t : FileTree) (said : Transcript)
    (after : FileTree) : Prop :=
  match output with
  | none => said = ⟨0, source, ""⟩ ∧ after = t
  | some file => said = ⟨0, "", ""⟩ ∧ after.readFile cwd file = .ok (Text.encode source) ∧
      ∃ place, Opens t cwd file place ∧ after.locate cwd file = .ok place ∧ ∀ l, l ≠ place → after.get? l = t.get? l

theorem emit_run (parsed : parse setting.configPath words = .ok ⟨globals, .emit path output⟩) (t : FileTree) :
    (carryOut setting words).run (answer cwd input launch) t =
      match ((loadConfig setting.tempDir globals.config).run (answer cwd input launch) t).1 with
      | .error fault => (loadFailure fault, t)
      | .ok _ =>
        match ((loadScript path).run (answer cwd input launch) t).1 with
        | .error fault => (loadFailure fault, t)
        | .ok script => (writeProgram script output).run (answer cwd input launch) t := by
  simp only [carryOut, parsed, run_bind]
  rw [load_config_still]
  cases ((loadConfig setting.tempDir globals.config).run (answer cwd input launch) t).1 with
  | error fault => simp
  | ok config =>
    simp only [Command.execute, run_bind]
    rw [load_script_still]
    cases ((loadScript path).run (answer cwd input launch) t).1 <;> simp

/-- The failure to write a program: nothing is printed and the files are as they were. -/
def Failed (t : FileTree) (said : Transcript) (after : FileTree) : Prop :=
  said.exit = 1 ∧ said.stdout = "" ∧ after = t

theorem write_program_run {script file : String} {statements : List Statement}
    (translated : Script.translate script = .ok statements) :
    (writeProgram script (some file)).run (answer cwd input launch) t =
      match t.writeFile cwd file (Text.encode (Program.assemble statements).source) with
      | (.error e, after) => (failure ("Writing " ++ file) e.message, after)
      | (.ok _, after) => (⟨0, "", ""⟩, after) := by
  simp only [writeProgram, translated, run_bind, run_write]
  rcases t.writeFile cwd file (Text.encode (Program.assemble statements).source) with ⟨_ | _, after⟩ <;> simp

theorem write_emitted {script : String} (emits : Emits script source)
    (opens : ∀ file, output = some file → ∃ place, Opens t cwd file place) :
    Emitted cwd output source t ((writeProgram script output).run (answer cwd input launch) t).1
      ((writeProgram script output).run (answer cwd input launch) t).2 := by
  obtain ⟨statements, translated, rfl⟩ := emits_iff.mp emits
  cases output with
  | none =>
    rw [emits]
    exact ⟨rfl, rfl⟩
  | some file =>
    obtain ⟨place, place_opens⟩ := opens file rfl
    have wrote := write_opened place_opens (Text.encode (Program.assemble statements).source)
    have run : (writeProgram script (some file)).run (answer cwd input launch) t = (⟨0, "", ""⟩,
        t.put place (.file (Text.encode (Program.assemble statements).source))) := by
      rw [write_program_run translated, wrote]
    have located := opens_located place_opens (Text.encode (Program.assemble statements).source)
    have inner := opens_inner place_opens
    rw [run]
    refine ⟨rfl, ?_, place, place_opens, located, fun l apart => ?_⟩
    · rw [readFile, located]
      simp [inner]
    · simp [inner, apart]

theorem write_failed {script : String}
    (blocked : ∀ source, Emits script source → ∃ file, output = some file ∧ ∀ place, ¬ Opens t cwd file place) :
    Failed t ((writeProgram script output).run (answer cwd input launch) t).1
      ((writeProgram script output).run (answer cwd input launch) t).2 := by
  cases translated : Script.translate script with
  | error fault =>
    rw [emit_refused translated]
    exact ⟨rfl, rfl, rfl⟩
  | ok statements =>
    obtain ⟨file, rfl, closed⟩ := blocked _ (emits_iff.mpr ⟨statements, translated, rfl⟩)
    obtain ⟨e, refused⟩ := write_refused closed (Text.encode (Program.assemble statements).source)
    rw [write_program_run translated, refused]
    exact ⟨rfl, rfl, rfl⟩

/-- Where nothing is missing, emitting succeeds. -/
theorem emit_succeeds (parsed : parse setting.configPath words = .ok ⟨globals, .emit path output⟩)
    (able : Emittable cwd (answer cwd input launch) setting globals path output t source) :
    Emitted cwd output source t ((carryOut setting words).run (answer cwd input launch) t).1
      ((carryOut setting words).run (answer cwd input launch) t).2 := by
  obtain ⟨config, configured⟩ := able.configured
  obtain ⟨script, loaded, emits⟩ := able.translated
  simp only [emit_run parsed, configured, loaded]
  exact write_emitted emits able.opens

/-- Where anything is missing, emitting fails before a file is touched. -/
theorem emit_fails (parsed : parse setting.configPath words = .ok ⟨globals, .emit path output⟩)
    (unable : ∀ source, ¬ Emittable cwd (answer cwd input launch) setting globals path output t source) :
    Failed t ((carryOut setting words).run (answer cwd input launch) t).1
      ((carryOut setting words).run (answer cwd input launch) t).2 := by
  simp only [emit_run parsed]
  cases configured : ((loadConfig setting.tempDir globals.config).run (answer cwd input launch) t).1 with
  | error fault => exact ⟨rfl, rfl, rfl⟩
  | ok config =>
    cases loaded : ((loadScript path).run (answer cwd input launch) t).1 with
    | error fault => exact ⟨rfl, rfl, rfl⟩
    | ok script =>
      refine write_failed fun source emits => ?_
      by_contra free
      refine unable source ⟨⟨config, configured⟩, ⟨script, loaded, emits⟩, fun file named => ?_⟩
      by_contra closed
      exact free ⟨file, named, fun place opens => closed ⟨place, opens⟩⟩

end CommandLines

/-- Emitting and running a script come to the same program. A request gets as far as building
exactly if the script can be emitted; then it opens the folder that the host grants it, and
none if the host grants none, and writes the emitted source, byte for byte and nothing else,
into it. A script that is refused when it is emitted ends the request with the message and
code of the same fault, and the host is asked for nothing. A command line that emits either
has all it needs, and then changes its output file alone, or it fails without a print and
changes no file. -/
theorem emit_agrees_with_run :
    (∀ (σ : Type) (host : (effect : Effect) → StateM σ effect.Reply) (start : σ) (config : Config)
      (id script : String),
      let report := ((Pipeline.run config id script).run host start).1
      let events := transcript host (Pipeline.run config id script) start
      ((∃ source, Emits script source) ↔ Stage.building ∈ report.entered) ∧
      (∀ source, Emits script source → (openings events).length ≤ 1 ∧
        (∀ dir, openings events = [dir] ↔ Grants host start (folder config id) dir) ∧
        writes events = (openings events).map fun dir => (sourceIn dir, Text.encode source)) ∧
      (∀ fault, Script.translate script = .error fault →
        (∀ output, writeProgram script output = .done (failure "Translating script" fault.message)) ∧
        report.outcome = ⟨false, none, none, some fault.message, some fault.code⟩ ∧ events = [])) ∧
    (∀ (cwd : Location) (input : List UInt8) (launch : Invocation → StateM FileTree Launch) (t : FileTree)
      (setting : Setting) (words : List String) (globals : Globals) (path : String) (output : Option String),
      parse setting.configPath words = .ok ⟨globals, .emit path output⟩ →
      let ended := (carryOut setting words).run (answer cwd input launch) t
      (∀ source, Emittable cwd (answer cwd input launch) setting globals path output t source →
        Emitted cwd output source t ended.1 ended.2) ∧
      ((∀ source, ¬ Emittable cwd (answer cwd input launch) setting globals path output t source) →
        ended.1.exit = 1 ∧ ended.1.stdout = "" ∧ ended.2 = t)) := by
  refine ⟨?_, ?_⟩
  · intro σ host start config id script report events
    obtain ⟨after, entered, drove⟩ := run_drove (transcript_runs host (Pipeline.run config id script) start)
    have shown : after.entered = report.entered := entered
    unfold Drove at drove
    rw [← shown]
    cases translated : Script.translate script with
    | error fault =>
      rw [translated] at drove
      obtain ⟨early, failed, none⟩ := drove
      have refused : ∀ source, ¬ Emits script source := by
        intro source emits
        obtain ⟨statements, other, _⟩ := emits_iff.mp emits
        cases translated.symm.trans other
      refine ⟨⟨fun ⟨source, emits⟩ => absurd emits (refused source), fun late => absurd late early⟩,
        fun source emits => absurd emits (refused source), ?_⟩
      rintro _ ⟨⟩
      refine ⟨emit_refused translated, ?_, none⟩
      rw [Report.outcome, failed]
      rfl
    | ok statements =>
      rw [translated] at drove
      obtain ⟨late, seeks, written⟩ := drove
      obtain ⟨once, granted⟩ := seeks_opens seeks
      have emits : Emits script (Program.assemble statements).source := emits_iff.mpr ⟨statements, translated, rfl⟩
      refine ⟨⟨fun _ => late, fun _ => ⟨_, emits⟩⟩, ?_, nofun⟩
      intro source again
      obtain ⟨others, same, rfl⟩ := emits_iff.mp again
      cases translated.symm.trans same
      exact ⟨once, granted, written⟩
  · intro cwd input launch t setting words globals path output parsed
    exact ⟨fun source => emit_succeeds parsed, emit_fails parsed⟩

/-- A script of one line, run on a machine that grants its folder, and emitted over a file that is there. -/
theorem emit_agrees_with_run_describe :
    let host := answer [] [] fun _ t => (.overran, t)
    let t : FileTree := ⟨[(["s"], .file (Text.encode "describe()")), (["out.cpp"], .file [])]⟩
    let source := (Program.assemble [⟨1, "describe();"⟩]).source
    let request := Pipeline.run (.default "/tmp") "r" "describe()"
    let ended := (carryOut ⟨"/tmp", none, "r"⟩ ["emit", "s", "-o", "out.cpp"]).run host t
    Emits "describe()" source ∧ Stage.building ∈ (request.run host t).1.entered ∧
      Grants host t (folder (.default "/tmp") "r") "/tmp/dsl2cpp/r" ∧
      writes (transcript host request t) = [("/tmp/dsl2cpp/r/main.cpp", Text.encode source)] ∧
      Emitted [] (some "out.cpp") source t ended.1 ended.2 := by
  intro host t source request ended
  have emits : Emits "describe()" source := emits_iff.mpr ⟨[⟨1, "describe();"⟩], by decide +kernel, rfl⟩
  have made : (t.makeFolders [] (folder (.default "/tmp") "r")).1 = .ok () := by decide +kernel
  have found : (t.makeFolders [] (folder (.default "/tmp") "r")).2.resolve [] (folder (.default "/tmp") "r") =
      .ok "/tmp/dsl2cpp/r" := by
    decide +kernel
  have grants : Grants host t (folder (.default "/tmp") "r") "/tmp/dsl2cpp/r" := ⟨made, found⟩
  obtain ⟨reaches, writing, _⟩ := emit_agrees_with_run.1 FileTree host t (.default "/tmp") "r" "describe()"
  obtain ⟨_, opened, written⟩ := writing source emits
  have path : sourceIn "/tmp/dsl2cpp/r" = "/tmp/dsl2cpp/r/main.cpp" := by decide +kernel
  rw [(opened _).mpr grants, List.map_singleton, path] at written
  refine ⟨emits, reaches.mp ⟨source, emits⟩, grants, written, ?_⟩
  have parsed : parse none ["emit", "s", "-o", "out.cpp"] =
      .ok ⟨⟨none, none, none, false, false, 0⟩, .emit "s" (some "out.cpp")⟩ := by
    decide +kernel
  have loaded : ((loadScript "s").run host t).1 = .ok "describe()" := by
    decide +kernel
  refine (emit_agrees_with_run.2 [] [] _ t ⟨"/tmp", none, "r"⟩ _ _ _ _ parsed).1 _ ⟨⟨_, rfl⟩, ?_, ?_⟩
  · exact ⟨"describe()", loaded, emits⟩
  · rintro _ ⟨⟩
    refine ⟨["out.cpp"], by decide +kernel, by decide +kernel, [], "out.cpp", [], by decide +kernel, by decide,
      by decide +kernel, by decide +kernel, rfl, by decide +kernel⟩

end Tabscript.EmittedProgram
