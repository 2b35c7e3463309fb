import AindyRuntime.Agent.ExecutionEnvironment

/-! # A worker and its limits

`_worker_confinement` and `_run_worker_or_kill_on_cancel`: from the environment
an isolated tool declares to the spawn of its worker, and the loop that waits
for it.
-/

namespace AindyRuntime.Environment

open Tool (ToolError)

def toolWorkerTimeout : Nat := 120000

def workerCancelPoll : Nat := 500

def workerKillGrace : Nat := 2000

/-- What of the host the spawn reads; `room` is what the recursion limit leaves
to the messages of the parser. -/
structure Host where
  room : Nat
  paths : Paths
  environ : List (String × String)
  scratchRoot : String

structure Registration where
  name : String
  isolation : Option String
  envSpec : PyObject

def unknownIsolation (name isolation : String) : ToolError :=
  ⟨"ValueError", "register_tool(" ++ quote name ++ "): isolation=" ++ quote isolation
    ++ " is not a known assurance class. Expected one of "
    ++ String.intercalate ", " assuranceAxis.names ++ ". Declaring an unknown class must fail "
    ++ "loudly — silently downgrading it would hand the tool a weaker boundary than it asked for.", none⟩

def invalidEnvSpec (name : String) (error : ToolError) : ToolError :=
  ⟨"ValueError", "register_tool(" ++ quote name ++ "): env_spec is not a valid execution "
    ++ "environment declaration (" ++ error.className ++ ": " ++ error.text ++ ")", none⟩

def checkIsolation (tool : Registration) : Except ToolError Unit :=
  match tool.isolation with
  | none => .ok ()
  | some isolation =>
    match assuranceAxis.named? (.str isolation) with
    | some _ => .ok ()
    | none => .error (unknownIsolation tool.name isolation)

/-- `register_tool`, as far as it checks the isolation and the environment; the
answer is the environment the tool has declared. -/
def registerTool (room : Nat) (tool : Registration) : Except ToolError Spec := do
  checkIsolation tool
  match tool.envSpec with
  | .null => return {}
  | declared => (fromDict room declared).mapError (invalidEnvSpec tool.name)

theorem registerTool_ok (accepted : registerTool room tool = .ok spec) :
    tool.envSpec = .null ∧ spec = {} ∨ fromDict room tool.envSpec = .ok spec := by
  unfold registerTool at accepted
  cases isolated : checkIsolation tool with
  | error => simp [isolated, bind, Except.bind] at accepted
  | ok =>
    simp only [isolated, bind, Except.bind] at accepted
    split at accepted
    · rename_i undeclared
      cases accepted
      exact .inl ⟨undeclared, rfl⟩
    · cases parsed : fromDict room tool.envSpec with
      | error => simp [parsed, Except.mapError] at accepted
      | ok =>
        simp only [parsed, Except.mapError] at accepted
        exact .inr (by rw [accepted])

/-- Of the falsy values only the empty dictionary parses, and it declares nothing. -/
theorem fromDict_falsy (falsy : raw.truthy = false) (parsed : fromDict room raw = .ok spec) : spec = {} := by
  cases raw with
  | dict entries =>
    have empty : entries = [] := by simpa [PyObject.truthy] using falsy
    rw [empty] at parsed
    exact (Except.ok.inj parsed).symm
  | null | bool _ | int _ | str _ | list _ | tuple _ | object _ _ _ => simp [fromDict] at parsed

def workerConfinement (host : Host) (tool : Registration) : Kwargs × Option String :=
  if tool.envSpec.truthy then
    match fromDict host.room tool.envSpec with
    | .error _ => ([], none)
    | .ok declared =>
      let effective := (clampToFloor host.paths declared toolFloor).1
      match subprocessConfinement host.environ effective host.scratchRoot toolWorkerTimeout with
      | [] => ([], none)
      | kwargs => (kwargs, some host.scratchRoot)
  else ([], none)

def popenParameters : List String :=
  ["args", "bufsize", "executable", "stdin", "stdout", "stderr", "preexec_fn", "close_fds", "shell",
    "cwd", "env", "universal_newlines", "startupinfo", "creationflags", "restore_signals",
    "start_new_session", "pass_fds", "group", "extra_groups", "user", "umask", "encoding", "errors",
    "text", "pipesize", "process_group"]

def unexpectedKeyword (keyword : String) : ToolError :=
  ⟨"TypeError", "Popen.__init__() got an unexpected keyword argument " ++ quote keyword, none⟩

def popen (kwargs : Kwargs) : Except ToolError Unit :=
  match kwargs.find? fun argument => decide (argument.1 ∉ popenParameters) with
  | some argument => .error (unexpectedKeyword argument.1)
  | none => .ok ()

theorem popen_append (known : ∀ argument ∈ taken, argument.1 ∈ popenParameters) :
    popen (taken ++ rest) = popen rest := by
  have nothing : taken.find? (fun argument => decide (argument.1 ∉ popenParameters)) = none := by
    rw [List.find?_eq_none]
    intro argument member
    simpa using known argument member
  rw [popen, popen, List.find?_append, nothing, Option.none_or]

/-- For a registered tool the parser has nothing to refuse and the floor nothing
to take away, so the spawn is called with what the declaration determines. -/
theorem workerConfinement_of_registered (accepted : registerTool host.room tool = .ok spec) :
    (workerConfinement host tool).1 =
      subprocessConfinement host.environ spec host.scratchRoot toolWorkerTimeout := by
  have undeclared : subprocessConfinement host.environ {} host.scratchRoot toolWorkerTimeout = [] :=
    rfl
  obtain ⟨absent, rfl⟩ | parsed := registerTool_ok accepted
  · rw [workerConfinement, absent]
    rfl
  · unfold workerConfinement
    cases given : tool.envSpec.truthy with
    | true =>
      simp only [if_true, parsed, clampToFloor_toolFloor]
      split
      · rename_i nothing
        exact nothing.symm
      · rfl
    | false =>
      rw [fromDict_falsy given parsed]
      rfl

/-- A declared wall time travels as the one argument the call does not take. -/
theorem popen_subprocessConfinement (environ : List (String × String)) (spec : Spec)
    (scratchRoot : String) (defaultTimeout : Nat) :
    popen (subprocessConfinement environ spec scratchRoot defaultTimeout) =
      match spec.resources.wallTimeMs with
      | some (_ + 1) => .error (unexpectedKeyword "timeout")
      | _ => .ok () := by
  rw [subprocessConfinement, popen_append]
  · cases spec.resources.wallTimeMs with
    | none => rfl
    | some wall =>
      cases wall with
      | zero | succ wall => rfl
  · intro argument member
    rcases List.mem_append.mp member with member | member
    all_goals split at member
    all_goals simp only [List.mem_singleton, List.not_mem_nil] at member
    all_goals subst member
    · exact (by decide : "env" ∈ popenParameters)
    · exact (by decide : "cwd" ∈ popenParameters)

/-- A worker ends by itself after `exitsAfter`, and after a `SIGTERM` within
`yieldsAfter`; `none` is never. -/
structure Process where
  (exitsAfter yieldsAfter : Option Nat)

structure Watch where
  runId : Option String
  isRunCancelled : Nat → Bool

inductive Stop where
  | completed
  | timedOut
  | cancelled
deriving DecidableEq, Repr

/-- `stoppedAt` is when the worker ended or was sent its `SIGTERM`, `goneAt` when
the process is gone. -/
structure Run where
  stop : Stop
  (stoppedAt goneAt : Nat)
deriving DecidableEq, Repr

def Process.kill (process : Process) (stop : Stop) (now : Nat) : Run where
  stop
  stoppedAt := now
  goneAt := now + min workerKillGrace
    (min (process.yieldsAfter.getD workerKillGrace) (process.exitsAfter.getD (now + workerKillGrace) - now))

def Watch.cancels (watch : Watch) (now : Nat) : Bool :=
  watch.runId.any (· != "") && watch.isRunCancelled now

def wakeTime (now : Nat) : Nat := now + min workerCancelPoll (toolWorkerTimeout - now)

theorem wakeTime_le (early : ¬ toolWorkerTimeout ≤ now) : wakeTime now ≤ toolWorkerTimeout := by
  simp only [wakeTime]
  omega

theorem lt_wakeTime (early : ¬ toolWorkerTimeout ≤ now) : now < wakeTime now := by
  simp only [wakeTime, workerCancelPoll]
  omega

def superviseFrom (watch : Watch) (process : Process) (now : Nat) : Run :=
  if toolWorkerTimeout ≤ now then process.kill .timedOut now
  else
    match process.exitsAfter.filter (· ≤ wakeTime now) with
    | some exit => ⟨.completed, max now exit, max now exit⟩
    | none =>
      if watch.cancels (wakeTime now) then process.kill .cancelled (wakeTime now)
      else superviseFrom watch process (wakeTime now)
termination_by toolWorkerTimeout - now
decreasing_by
  have := lt_wakeTime ‹_›
  omega

theorem superviseFrom_again (early : ¬ toolWorkerTimeout ≤ now)
    (alive : process.exitsAfter.filter (· ≤ wakeTime now) = none) (kept : ¬ watch.cancels (wakeTime now) = true) :
    superviseFrom watch process now = superviseFrom watch process (wakeTime now) := by
  rw [superviseFrom, if_neg early]
  simp [alive, if_neg kept]

def runWorkerOrKillOnCancel (watch : Watch) (process : Process) (spawnKwargs : Kwargs) : Except ToolError Run := do
  popen spawnKwargs
  return superviseFrom watch process 0

theorem Process.kill_goneAt_le (process : Process) (stop : Stop) (now : Nat) :
    (process.kill stop now).goneAt ≤ now + workerKillGrace := by
  simp only [Process.kill]
  omega

/-- The loop neither waits past its deadline nor lets a signalled worker outlive
the grace period. -/
theorem superviseFrom_bounds (watch : Watch) (process : Process) (begun : now ≤ toolWorkerTimeout) :
    (superviseFrom watch process now).stoppedAt ≤ toolWorkerTimeout ∧
      (superviseFrom watch process now).goneAt
        ≤ (superviseFrom watch process now).stoppedAt + workerKillGrace := by
  induction now using superviseFrom.induct watch process with
  | case1 now late =>
    rw [superviseFrom, if_pos late]
    exact ⟨begun, process.kill_goneAt_le _ now⟩
  | case2 now early exit exits =>
    have soon : exit ≤ wakeTime now := by
      simpa using (Option.filter_eq_some_iff.mp exits).2
    have := wakeTime_le early
    rw [superviseFrom, if_neg early]
    simp only [exits]
    omega
  | case3 now early alive cancelled =>
    rw [superviseFrom, if_neg early]
    simp only [alive, if_pos cancelled]
    exact ⟨wakeTime_le early, process.kill_goneAt_le _ _⟩
  | case4 now early alive kept ih =>
    rw [superviseFrom_again early alive kept]
    exact ih (wakeTime_le early)

/-- A worker that never ends, for a run that nobody cancels, is stopped by the
global timeout and not before. -/
theorem superviseFrom_endless (begun : now ≤ toolWorkerTimeout) (endless : process.exitsAfter = none)
    (kept : ∀ time, watch.cancels time = false) :
    (superviseFrom watch process now).stoppedAt = toolWorkerTimeout := by
  induction now using superviseFrom.induct watch process with
  | case1 now late =>
    rw [superviseFrom, if_pos late]
    exact Nat.le_antisymm begun late
  | case2 now early exit exits => simp [endless] at exits
  | case3 now early alive cancelled => simp [kept] at cancelled
  | case4 now early alive uncancelled ih =>
    rw [superviseFrom_again early alive uncancelled]
    exact ih (wakeTime_le early)

def Spec.limit (spec : Spec) : Nat :=
  min toolWorkerTimeout (spec.resources.wallTimeMs.getD toolWorkerTimeout)

/-- Every call starts its worker and stops it by the limit; the process is gone
when its grace period ends. -/
def WithinLimits (host : Host) (tool : Registration) (spec : Spec) : Prop :=
  ∀ watch process, ∃ run,
    runWorkerOrKillOnCancel watch process (workerConfinement host tool).1 = .ok run ∧
      run.stoppedAt ≤ spec.limit ∧ run.goneAt ≤ run.stoppedAt + workerKillGrace

/-- How the worker ends for `_run_tool_out_of_process`; `own` is its end when it
is let run and `fn` how far the function of one that is killed has got. -/
def workerEnd (own : Tool.WorkerEnd) (fn : Option Tool.FnExit) : Except ToolError Run → Tool.WorkerEnd
  | .error error => .notStarted error
  | .ok run =>
    match run.stop with
    | .completed => own
    | .timedOut => .timedOut fn
    | .cancelled => .cancelled fn

theorem runWorker_of_registered
    (accepted : registerTool host.room tool = .ok spec) (watch : Watch) (process : Process) :
    runWorkerOrKillOnCancel watch process (workerConfinement host tool).1 =
      match spec.resources.wallTimeMs with
      | some (_ + 1) => .error (unexpectedKeyword "timeout")
      | _ => .ok (superviseFrom watch process 0) := by
  rw [runWorkerOrKillOnCancel, workerConfinement_of_registered accepted, popen_subprocessConfinement]
  cases spec.resources.wallTimeMs with
  | none => rfl
  | some wall =>
    cases wall with
    | zero | succ wall => rfl

/-- The declared limits hold exactly for the tools that declare no wall time. A
wall time other than `0` keeps the worker from starting, and `0` is read as no
wall time at all. -/
theorem isolated_tool_within_limits_iff {host : Host} {tool : Registration} {spec : Spec}
    (accepted : registerTool host.room tool = .ok spec) :
    WithinLimits host tool spec ↔ spec.resources.wallTimeMs = none := by
  constructor
  · intro within
    cases declared : spec.resources.wallTimeMs with
    | none => rfl
    | some wall =>
      obtain ⟨_, started, stopped, -⟩ := within ⟨none, fun _ => false⟩ ⟨none, none⟩
      rw [runWorker_of_registered accepted, declared] at started
      cases wall with
      | succ => simp at started
      | zero =>
        have endless : (superviseFrom ⟨none, fun _ => false⟩ ⟨none, none⟩ 0).stoppedAt
            = toolWorkerTimeout :=
          superviseFrom_endless (Nat.zero_le _) rfl fun _ => rfl
        rw [← Except.ok.inj started, endless, Spec.limit, declared] at stopped
        exact absurd stopped (by decide)
  · intro undeclared watch process
    obtain ⟨stopped, gone⟩ := superviseFrom_bounds watch process (Nat.zero_le toolWorkerTimeout)
    refine ⟨superviseFrom watch process 0, ?_, ?_, gone⟩
    · rw [runWorker_of_registered accepted, undeclared]
    · rw [Spec.limit, undeclared]
      exact Nat.le_min.mpr ⟨stopped, stopped⟩

def plainHost : Host := ⟨1000, ⟨id, fun path root => path == root⟩, [], "/tmp/aindy-tool-"⟩

def confinedTool : Registration where
  name := "fetch"
  isolation := some "container-grade-sandbox"
  envSpec := .dict [("visibility", .dict [("env", .str "none"), ("filesystem", .str "scoped")])]

/-- A tool may narrow its environment and its directory and keeps its limit. -/
theorem isolated_tool_within_limits_confined :
    registerTool plainHost.room confinedTool =
        .ok { visibility := { filesystem := .scoped, env := .none } } ∧
      WithinLimits plainHost confinedTool
        { visibility := { filesystem := .scoped, env := .none } } :=
  ⟨by rfl, (isolated_tool_within_limits_iff (by rfl)).mpr rfl⟩

def timedTool : Registration where
  name := "fetch"
  isolation := some "container-grade-sandbox"
  envSpec := .dict [("resources", .dict [("wall_time_ms", .int 5000)])]

/-- A tool that asks for five seconds registers, and no call of it ever starts a
worker: each is answered as a failed start. -/
theorem timed_tool_never_starts :
    registerTool plainHost.room timedTool = .ok { resources := { wallTimeMs := some 5000 } } ∧
      ∀ watch process,
        runWorkerOrKillOnCancel watch process (workerConfinement plainHost timedTool).1 =
            .error (unexpectedKeyword "timeout") ∧
          ∀ room workerRoom runId effectful own fn,
            Tool.runToolOutOfProcess room workerRoom timedTool.name runId effectful
                (workerEnd own fn (runWorkerOrKillOnCancel watch process
                  (workerConfinement plainHost timedTool).1)) =
              .ok (Tool.workerNotStarted timedTool.name (unexpectedKeyword "timeout")) := by
  have accepted : registerTool plainHost.room timedTool =
      .ok { resources := { wallTimeMs := some 5000 } } := by rfl
  refine ⟨accepted, ?_⟩
  intro watch process
  have refused := runWorker_of_registered accepted watch process
  refine ⟨refused, ?_⟩
  intro room workerRoom runId effectful own fn
  rw [refused]
  rfl

end AindyRuntime.Environment
