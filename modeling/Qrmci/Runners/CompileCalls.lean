import Qrmci.Lib.FirstFault
import Qrmci.Runners.Compile

namespace Qrmci

/-- The call for one circuit file. -/
def compileCall (backendInfo : BackendWrapper) (options : CompilerOptions) (circuitFile : Bytes) : CompileCall :=
  ⟨circuitFile, backendInfo.name, backendInfo.instructions, backendInfo.qubitConnectivity, options⟩

def emptyCircuit (index : Nat) : Error :=
  ⟨.compilationFailed, "Compilation failed for circuit file " ++ toString index ++ ": circuit is empty."⟩

def rejectedCircuit (index : Nat) : Error :=
  ⟨.compilationFailed, "Compilation failed for circuit file " ++ toString index ++ "."⟩

section Files

variable (compiler : MQSSCompiler) (backendInfo : BackendWrapper) (options : CompilerOptions)

/-- The circuit file at that index is not empty, and this is the compiler's output for it. -/
def CompilesTo (index : Nat) (circuitFile compiled : Bytes) : Prop :=
  circuitFile ≠ [] ∧ compiler.compileSource index (compileCall backendInfo options circuitFile) = .output compiled

/-- The compiler has no output for the circuit file at that index, which is empty, rejected or makes it throw. -/
def Uncompiled (index : Nat) (circuitFile : Bytes) : Prop :=
  ∀ compiled, ¬ CompilesTo compiler backendInfo options index circuitFile compiled

/-- What the loop returns for a first fault, and the calls it has made by then. -/
inductive FaultReported (start : Nat) (files : List Bytes) (position : Nat) (circuitFile : Bytes) :
    Except Error (List Bytes) × List CompileCall → Prop
  | empty : circuitFile = [] → FaultReported start files position circuitFile
      (.error (emptyCircuit (start + position)), (files.take position).map (compileCall backendInfo options))
  | rejected : circuitFile ≠ [] →
      compiler.compileSource (start + position) (compileCall backendInfo options circuitFile) = .failure →
      FaultReported start files position circuitFile (.error (rejectedCircuit (start + position)),
        (files.take (position + 1)).map (compileCall backendInfo options))
  | thrown (what : String) : circuitFile ≠ [] →
      compiler.compileSource (start + position) (compileCall backendInfo options circuitFile) = .thrown what →
      FaultReported start files position circuitFile (.error ⟨.compilationFailed, "Compilation failed: " ++ what⟩,
        (files.take (position + 1)).map (compileCall backendInfo options))

/-- Every circuit file compiles, and these are the outputs in their order. -/
structure AllCompile (start : Nat) (files outputs : List Bytes) : Prop where
  count : outputs.length = files.length
  each : ∀ index file, files[index]? = some file →
    ∃ compiled, outputs[index]? = some compiled ∧ CompilesTo compiler backendInfo options (start + index) file compiled

end Files

variable {compiler : MQSSCompiler} {backendInfo : BackendWrapper} {options : CompilerOptions} {start : Nat}
  {circuitFile compiled : Bytes} {rest outputs : List Bytes}

/-- One more circuit file in front of them. -/
theorem AllCompile.cons (first : CompilesTo compiler backendInfo options start circuitFile compiled)
    (others : AllCompile compiler backendInfo options (start + 1) rest outputs) :
    AllCompile compiler backendInfo options start (circuitFile :: rest) (compiled :: outputs) := by
  refine ⟨congrArg Nat.succ others.count, ?_⟩
  intro index file located
  cases index with
  | zero =>
    cases located
    exact ⟨compiled, rfl, first⟩
  | succ index =>
    obtain ⟨output, listed, compiles⟩ := others.each index file located
    have number : start + (index + 1) = start + 1 + index := by omega
    rw [number]
    exact ⟨output, listed, compiles⟩

/-- The call for the file in front comes before those for the others. -/
theorem FaultReported.cons {position : Nat} {file : Bytes} {result : Except Error (List Bytes)} {calls : List CompileCall}
    (later : FaultReported compiler backendInfo options (start + 1) rest position file (result, calls)) :
    FaultReported compiler backendInfo options start (circuitFile :: rest) (position + 1) file
      (result, compileCall backendInfo options circuitFile :: calls) := by
  have number : start + 1 + position = start + (position + 1) := by omega
  cases later with
  | empty blank =>
    rw [number]
    exact .empty blank
  | rejected full failed =>
    rw [number] at failed ⊢
    exact .rejected full failed
  | thrown what full threw =>
    rw [number] at threw
    exact .thrown what full threw

/-- The loop at a circuit file that is not empty. -/
theorem compileCircuits_cons (staged rest : List Bytes) (full : circuitFile ≠ []) :
    compileCircuits compiler backendInfo options staged (circuitFile :: rest) =
      match compiler.compileSource staged.length (compileCall backendInfo options circuitFile) with
      | .thrown what =>
        (.error ⟨.compilationFailed, "Compilation failed: " ++ what⟩, [compileCall backendInfo options circuitFile])
      | .failure => (.error (rejectedCircuit staged.length), [compileCall backendInfo options circuitFile])
      | .output compiled =>
        let remaining := compileCircuits compiler backendInfo options (staged ++ [compiled]) rest
        (remaining.1, compileCall backendInfo options circuitFile :: remaining.2) := by
  have present : ¬ circuitFile.isEmpty = true := by simpa using full
  rw [compileCircuits, if_neg present]
  rfl

/-- The loop goes through all the circuit files, or reports the first that does not compile. -/
theorem compileCircuits_cases (compiler : MQSSCompiler) (backendInfo : BackendWrapper) (options : CompilerOptions)
    (staged files : List Bytes) :
    (∃ outputs, AllCompile compiler backendInfo options staged.length files outputs ∧
      compileCircuits compiler backendInfo options staged files =
        (.ok (staged ++ outputs), files.map (compileCall backendInfo options))) ∨
    ∃ position circuitFile,
      FirstFault (fun index => Uncompiled compiler backendInfo options (staged.length + index)) files position circuitFile ∧
      FaultReported compiler backendInfo options staged.length files position circuitFile
        (compileCircuits compiler backendInfo options staged files) := by
  induction files generalizing staged with
  | nil => exact Or.inl ⟨[], ⟨rfl, by simp⟩, by simp [compileCircuits]⟩
  | cons circuitFile rest ih =>
    by_cases empty : circuitFile = []
    · subst empty
      exact Or.inr ⟨0, [], .head fun _ compiles => compiles.1 rfl, .empty rfl⟩
    · rw [compileCircuits_cons staged rest empty]
      cases answer : compiler.compileSource staged.length (compileCall backendInfo options circuitFile) with
      | failure =>
        refine Or.inr ⟨0, circuitFile, .head ?_, .rejected empty answer⟩
        intro compiled compiles
        cases answer.symm.trans compiles.2
      | thrown what =>
        refine Or.inr ⟨0, circuitFile, .head ?_, .thrown what empty answer⟩
        intro compiled compiles
        cases answer.symm.trans compiles.2
      | output compiled =>
        have first : CompilesTo compiler backendInfo options staged.length circuitFile compiled := ⟨empty, answer⟩
        have grown : (staged ++ [compiled]).length = staged.length + 1 := by simp
        rcases ih (staged ++ [compiled]) with ⟨outputs, all, run⟩ | ⟨position, file, fault, report⟩
        · rw [grown] at all
          refine Or.inl ⟨compiled :: outputs, all.cons first, ?_⟩
          simp only [run, List.map_cons, List.append_assoc, List.singleton_append]
        · rw [grown] at fault report
          simp only [Nat.add_right_comm] at fault
          exact Or.inr ⟨position + 1, file, fault.cons fun uncompiled => uncompiled compiled first, report.cons⟩

/-- Only circuit files that are not empty are handed to the compiler. -/
theorem FaultReported.sources {files : List Bytes} {position : Nat} {report : Except Error (List Bytes) × List CompileCall}
    (fault : FirstFault (fun index => Uncompiled compiler backendInfo options (start + index)) files position circuitFile)
    (reported : FaultReported compiler backendInfo options start files position circuitFile report) :
    ∀ call ∈ report.2, call.source ≠ [] := by
  have before : ∀ file ∈ files.take position, file ≠ [] := by
    intro file member
    obtain ⟨index, _, sound⟩ := fault.sound_of_mem_take member
    obtain ⟨_, full, _⟩ := not_forall_not.mp sound
    exact full
  have upTo : circuitFile ≠ [] → ∀ file ∈ files.take (position + 1), file ≠ [] := by
    intro full file member
    rw [List.take_add_one, fault.located, Option.toList_some, List.mem_append, List.mem_singleton] at member
    rcases member with earlier | same
    · exact before file earlier
    · exact same ▸ full
  intro call made
  cases reported with
  | empty blank =>
    obtain ⟨file, member, rfl⟩ := List.mem_map.mp made
    exact before file member
  | rejected full failed =>
    obtain ⟨file, member, rfl⟩ := List.mem_map.mp made
    exact upTo full file member
  | thrown what full threw =>
    obtain ⟨file, member, rfl⟩ := List.mem_map.mp made
    exact upTo full file member

theorem getCompilerOptimizationLevel_ok {level : Int} (lowest : 0 ≤ level) (highest : level ≤ 3) :
    ∃ optimization, getCompilerOptimizationLevel level = .ok optimization := by
  unfold getCompilerOptimizationLevel
  split
  · exact ⟨_, rfl⟩
  · split
    · exact ⟨_, rfl⟩
    · split
      · exact ⟨_, rfl⟩
      · omega

variable {task : QuantumTask} {target : CompilerTarget} {level : OptLevel}

/-- A task that passes the checks in front of the loop comes out compiled, or its first fault is reported. -/
theorem compileQuantumTask_files (modified : task.noModify = false)
    (valid : validateInputFormatIsSupportedCircuitFormat task.circuitFileType compiler.supportedInputFormats = .ok ())
    (chosen : backendInfo.compilerTarget = .ok target)
    (optimised : getCompilerOptimizationLevel task.optimisationLevel = .ok level) :
    (∃ outputs, AllCompile compiler backendInfo ⟨level, target.compilerFormat⟩ 0 task.circuitFiles outputs ∧
      compileQuantumTask task backendInfo compiler = ⟨relabelCompiled task target outputs, .ok (),
        task.circuitFiles.map (compileCall backendInfo ⟨level, target.compilerFormat⟩)⟩) ∨
    ∃ position circuitFile error calls,
      FirstFault (Uncompiled compiler backendInfo ⟨level, target.compilerFormat⟩) task.circuitFiles position circuitFile ∧
      FaultReported compiler backendInfo ⟨level, target.compilerFormat⟩ 0 task.circuitFiles position circuitFile
        (.error error, calls) ∧
      compileQuantumTask task backendInfo compiler = ⟨task, .error error, calls⟩ := by
  rcases compileCircuits_cases compiler backendInfo ⟨level, target.compilerFormat⟩ [] task.circuitFiles with
    ⟨outputs, all, run⟩ | ⟨position, circuitFile, fault, report⟩
  · refine Or.inl ⟨outputs, all, ?_⟩
    simp only [compileQuantumTask, modified, Bool.false_eq_true, if_false, valid, chosen, optimised, run,
      List.nil_append]
  · right
    simp only [List.length_nil, Nat.zero_add] at fault
    cases run : compileCircuits compiler backendInfo ⟨level, target.compilerFormat⟩ [] task.circuitFiles with
    | mk result calls =>
      rw [run] at report
      cases result with
      | ok compiled => cases report
      | error error =>
        refine ⟨position, circuitFile, error, calls, fault, report, ?_⟩
        simp only [compileQuantumTask, modified, Bool.false_eq_true, if_false, valid, chosen, optimised, run]

/-- The compilation of a task circuit file by circuit file. The compiler is called for the files in their
order, once each, with the same options and the backend's own properties, up to the first that does not
compile and never for one that is empty. If all compile, each file is replaced by its own output; if the
first that does not is empty or is rejected, the error says which it is. -/
theorem compilation_per_circuit (task : QuantumTask) (backendInfo : BackendWrapper) (compiler : MQSSCompiler)
    (target : CompilerTarget) (modified : task.noModify = false)
    (valid : validateInputFormatIsSupportedCircuitFormat task.circuitFileType compiler.supportedInputFormats = .ok ())
    (chosen : backendInfo.compilerTarget = .ok target)
    (lowest : 0 ≤ task.optimisationLevel) (highest : task.optimisationLevel ≤ 3) :
    ∃ level, getCompilerOptimizationLevel task.optimisationLevel = .ok level ∧
      let options : CompilerOptions := ⟨level, target.compilerFormat⟩
      let files := task.circuitFiles
      let run := compileQuantumTask task backendInfo compiler
      let compile := ∀ index file, files[index]? = some file →
        ∃ compiled, CompilesTo compiler backendInfo options index file compiled
      (compile ∨ ∃ position file, FirstFault (Uncompiled compiler backendInfo options) files position file) ∧
      (∀ call ∈ run.calls, call.source ≠ []) ∧
      (compile → run.calls = files.map (compileCall backendInfo options)) ∧
      (∀ position file, FirstFault (Uncompiled compiler backendInfo options) files position file →
        run.calls = (files.take (if file = [] then position else position + 1)).map (compileCall backendInfo options)) ∧
      (run.result = .ok () ↔ compile) ∧
      (run.result = .ok () → AllCompile compiler backendInfo options 0 files run.task.circuitFiles) ∧
      ∀ position file, FirstFault (Uncompiled compiler backendInfo options) files position file →
        (file = [] → run.result = .error (emptyCircuit position)) ∧
        (file ≠ [] → compiler.compileSource position (compileCall backendInfo options file) = .failure →
          run.result = .error (rejectedCircuit position)) := by
  obtain ⟨level, optimised⟩ := getCompilerOptimizationLevel_ok lowest highest
  refine ⟨level, optimised, ?_⟩
  intro options files run compile
  rcases compileQuantumTask_files modified valid chosen optimised with
    ⟨outputs, all, ran⟩ | ⟨position, file, error, calls, fault, report, ran⟩
  · have compiles : compile := by
      intro index file located
      obtain ⟨compiled, _, output⟩ := all.each index file located
      rw [Nat.zero_add] at output
      exact ⟨compiled, output⟩
    have faultless : ∀ position file, ¬ FirstFault (Uncompiled compiler backendInfo options) files position file := by
      intro position file fault
      obtain ⟨compiled, output⟩ := compiles position file fault.located
      exact fault.fault compiled output
    have written : (relabelCompiled task target outputs).circuitFiles = outputs := by
      have whole : task.circuitFiles.drop outputs.length = [] := List.drop_eq_nil_of_le all.count.ge
      rw [relabelCompiled, whole, List.append_nil]
    simp only [run, ran, written]
    refine ⟨Or.inl compiles, ?_, fun _ => rfl, fun position file fault => absurd fault (faultless position file),
      iff_of_true trivial compiles, fun _ => all, fun position file fault => absurd fault (faultless position file)⟩
    intro call made
    obtain ⟨file, member, rfl⟩ := List.mem_map.mp made
    obtain ⟨index, located⟩ := List.mem_iff_getElem?.mp member
    obtain ⟨compiled, full, _⟩ := compiles index file located
    exact full
  · have faulty : ¬ compile := by
      intro compiles
      obtain ⟨compiled, output⟩ := compiles position file fault.located
      exact fault.fault compiled output
    have numbered : FirstFault (fun index => Uncompiled compiler backendInfo options (0 + index)) files position file := by
      simpa only [Nat.zero_add] using fault
    simp only [run, ran]
    refine ⟨Or.inr ⟨position, file, fault⟩, report.sources numbered, fun compiles => absurd compiles faulty, ?_, ?_, ?_, ?_⟩
    · intro position file also
      obtain ⟨rfl, rfl⟩ := also.unique fault
      cases report with
      | empty blank => rw [if_pos blank]
      | rejected full failed => rw [if_neg full]
      | thrown what full threw => rw [if_neg full]
    · exact iff_of_false (by intro succeeded; cases succeeded) faulty
    · intro succeeded
      cases succeeded
    · intro position file also
      obtain ⟨rfl, rfl⟩ := also.unique fault
      cases report with
      | empty blank =>
        exact ⟨fun _ => by rw [Nat.zero_add], fun full => absurd blank full⟩
      | rejected full failed =>
        exact ⟨fun blank => absurd blank full, fun _ _ => by rw [Nat.zero_add]⟩
      | thrown what full threw =>
        refine ⟨fun blank => absurd blank full, ?_⟩
        intro _ failed
        rw [Nat.zero_add] at threw
        cases threw.symm.trans failed

/-- Of three circuit files, of which the second is empty, only the first reaches the compiler. -/
theorem compilation_stops_at_second :
    ∃ run, compileQuantumTask
        ⟨7, 3, 100, [[113], [], [120]], "quake", "results-queue", "", "alpha", [], 0, 1, false⟩
        ⟨"alpha", 5, .unspecified, .idle, 0, 0, "compiler.alpha", [], [], [.qasm3, .qirBaseString]⟩ .echo = run ∧
      run.calls.length = 1 ∧ run.result = .error (emptyCircuit 1) := by
  obtain ⟨level, optimised, _, _, _, calls, _, _, errors⟩ := compilation_per_circuit
    ⟨7, 3, 100, [[113], [], [120]], "quake", "results-queue", "", "alpha", [], 0, 1, false⟩
    ⟨"alpha", 5, .unspecified, .idle, 0, 0, "compiler.alpha", [], [], [.qasm3, .qirBaseString]⟩ .echo
    ⟨.qirBase, .qirBaseString, "qirbase"⟩ rfl (by decide +kernel) (by decide +kernel) (by decide) (by decide)
  have fault : FirstFault (Uncompiled .echo
      ⟨"alpha", 5, .unspecified, .idle, 0, 0, "compiler.alpha", [], [], [.qasm3, .qirBaseString]⟩ ⟨level, .qirBase⟩)
      [[113], [], [120]] 1 [] := by
    refine ⟨rfl, fun _ compiles => compiles.1 rfl, ?_⟩
    intro index file before located uncompiled
    obtain rfl : index = 0 := by omega
    cases located
    exact uncompiled [113] ⟨by decide, rfl⟩
  refine ⟨_, rfl, ?_, (errors 1 [] fault).1 rfl⟩
  rw [calls 1 [] fault]
  rfl

end Qrmci
