import BuildCredentials.Program.Run
import BuildCredentials.Proofs.Build.Lifetime
import BuildCredentials.Proofs.CommandLine.Words
import BuildCredentials.Proofs.Lookup.Binding

/-!
# Runs of the whole program

A run on the words of a command on the settings does what the command does to the settings file (`run_of_settings`).
A run of a build ends with the exit code of its engine, and leaves neither a socket nor a file at the path of its
socket, whatever the engine has done to the files meanwhile (`run_of_build`).
-/

set_option autoImplicit false

namespace BuildCredentials.Program

open CommandLine (Command BuildOptions)

variable {s : Start} {c : Command} {o : BuildOptions} {settings : Settings}

/-- The path of the settings file: the one that words name, or else the environment, or else the usual one. -/
def settingsPath (s : Start) (c : Command) : String :=
  (c.settingsPath?.or (s.vars.lookup Settings.pathVariable)).getD (Settings.usualPath s.files s.vars)

/-- A run on the words of a command. -/
theorem run_of_words (hc : c.Proper) (hw : s.words = c.words) (he : s.vars.lookup Settings.pathVariable ≠ some "") :
    run s = match Settings.load s.files (settingsPath s c) with
      | .error e => { files := s.files, result := .error (.error e) }
      | .ok settings => act s c (settingsPath s c) settings := by
  rw [run, hw, Command.read_words hc he]
  rfl

/-! ## Commands on the settings -/

/-- A run on the words of a command on the settings does what the command does to the settings file. -/
theorem run_of_settings {command? : Option Settings.Command} (hc : c.Proper) (hw : s.words = c.words)
    (he : s.vars.lookup Settings.pathVariable ≠ some "") (ha : c.action = .settings command?) :
    let answer := Settings.loadAndRun s.files (settingsPath s c) (command?.getD .print)
    run s = ⟨answer.tree, answer.out, answer.err, answer.result.mapError .error⟩ := by
  intro answer
  rw [run_of_words hc hw he]
  simp only [answer, Settings.loadAndRun, act, ha]
  cases Settings.load s.files (settingsPath s c) <;> rfl

/-! ## Builds -/

/-- The path of the socket of a build. -/
def socketPath (settings : Settings) (o : BuildOptions) : String := o.socket?.getD settings.socketPath

/-- A build that has got as far as its socket. -/
structure Prepared (s : Start) (settings : Settings) (o : BuildOptions) (auth? : Option Build.RegistryAuth)
    (auths : Registry.Auths) (made bound : FileTree) : Prop where
  state : makeStateDirectory s.files s.vars = (made, .ok ())
  auth : registryAuth made o = .ok auth?
  read : Build.readAuths auth? = .ok auths
  socket : Lookup.Socket.bind made (socketPath settings o) settings.socketMode.toNat = (bound, .ok ())

/-- What becomes of the engine of a build, which is told of its credentials if it has any. -/
def engineRun (s : Start) (settings : Settings) (o : BuildOptions) (auths : Registry.Auths) (bound : FileTree) :
    Build.EngineRun :=
  engine s.helper bound s.vars (engineCommand settings o)
    { context := o.context, args := o.engineArgs, build? := if auths = ∅ then none else some s.fresh
      socket := socketPath settings o }
    (if auths = ∅ then ∅ else Store.put ∅ s.fresh auths)

section
variable {auth? : Option Build.RegistryAuth} {auths : Registry.Auths} {made bound : FileTree}

theorem build_eq (h : Prepared s settings o auth? auths made bound) :
    build s settings o = buildOver s settings o (socketPath settings o) bound auth? := by
  have hsocket := h.socket
  rw [socketPath] at hsocket ⊢
  simp only [build, h.state, h.auth, hsocket]

theorem buildOver_result (h : Build.readAuths auth? = .ok auths) :
    (buildOver s settings o (socketPath settings o) bound auth?).2 =
      Build.judge (engineRun s settings o auths bound).outcome := by
  by_cases hempty : auths = ∅
  · subst hempty
    simp only [buildOver, Build.run_of_empty h, engineRun, if_true]
  · simp only [buildOver, Build.run_of_auths h hempty, engineRun, hempty, if_false]
    rfl

theorem exitCode_judge {outcome : Except Error Int} {code : Int} (h : outcome = .ok code) :
    exitCode ((Build.judge outcome).mapError .error) = if 0 ≤ code ∧ code < 256 then code.toNat else 1 := by
  subst h
  by_cases hzero : code = 0
  · subst hzero
    rfl
  · rw [Build.judge, if_neg hzero]
    rfl

/-- A build that has got as far as its socket ends with the exit code of its engine, and at the path of the socket it
leaves at most a directory, whatever the engine has done to the files. -/
theorem run_of_build (hc : c.Proper) (hw : s.words = c.words) (he : s.vars.lookup Settings.pathVariable ≠ some "")
    (ha : c.action = .build o) (hl : Settings.load s.files (settingsPath s c) = .ok settings)
    (h : Prepared s settings o auth? auths made bound) :
    (∀ n, (run s).files.lookup (socketPath settings o) = .ok n → n = .directory) ∧
      ∀ code, (engineRun s settings o auths bound).outcome = .ok code →
        exitCode (run s).result = if 0 ≤ code ∧ code < 256 then code.toNat else 1 := by
  have hrun : run s = ⟨(buildOver s settings o (socketPath settings o) bound auth?).1, "", "",
      (buildOver s settings o (socketPath settings o) bound auth?).2.mapError .error⟩ := by
    rw [run_of_words hc hw he, hl, ← build_eq h]
    simp only [act, ha]
  rw [hrun]
  refine ⟨fun n hn => Lookup.Socket.eq_directory_of_close rfl hn, fun code hcode => ?_⟩
  rw [buildOver_result h.read]
  exact exitCode_judge hcode

end

end BuildCredentials.Program
