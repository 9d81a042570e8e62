import MatrixHarness.Proofs.Program.ConcurrencyHint
import MatrixHarness.Proofs.Reference.Expanding

/-! # Merging

Which source each of the common settings comes from.  What the command line gives is taken as it is
and hides what the settings file says; a path of the file is expanded only if it is used, and that
is all that can fail. -/
namespace MatrixHarness.Resolution

variable {env : Environment} {directory : RawText} {i : Invocation} {s : Settings} {f : Failed}
  {m : MatrixSettings}

theorem testRunner_file (env : Environment) (directory path : RawText) :
    testRunner env directory none (some path) =
      (Reference.expand env path).mapError (Failed.mk path) := by
  rcases h : Reference.expand env path with cause | expanded <;> simp [testRunner,h,Except.mapError]

theorem resolve_error_iff : resolve env directory i s = .error f ↔
    testRunner env directory i.testRunner s.testRunner = .error f := by
  rw [resolve]
  rcases testRunner env directory i.testRunner s.testRunner with f' | path
  · simp
  · simp

/-- The only failure is that of a path of the settings file that is used. -/
theorem testRunner_error_iff {given fromFile : Option RawText} :
    testRunner env directory given fromFile = .error f ↔
      given = none ∧ fromFile = some f.path ∧ Reference.expand env f.path = .error f.cause := by
  rcases given with _ | path
  · rcases fromFile with _ | path
    · simp
    · rw [testRunner_file]
      rcases h : Reference.expand env path with cause | expanded
      · constructor
        · intro hf
          obtain rfl : Failed.mk path cause = f := by simpa [Except.mapError] using hf
          exact ⟨rfl,rfl,h⟩
        · rintro ⟨-,⟨⟩,hf⟩
          obtain rfl : cause = f.cause := Except.error.inj (h.symm.trans hf)
          rfl
      · constructor
        · simp [Except.mapError]
        · rintro ⟨-,⟨⟩,hf⟩
          simp [h] at hf
  · simp

theorem resolve_given (h : i.testRunner.isSome = true) (env' : Environment)
    (t : Option RawText) :
    resolve env' directory i { s with testRunner := t } = resolve env directory i s := by
  obtain ⟨path,hpath⟩ := Option.isSome_iff_exists.mp h
  simp [resolve,hpath]

theorem resolve_hint (h : i.smp.isSome = true) (n : Option UInt32) :
    resolve env directory i { s with smp := n } = resolve env directory i s := by
  obtain ⟨given,hgiven⟩ := Option.isSome_iff_exists.mp h
  simp [resolve,hgiven]

/-- Where the common settings come from, and what can fail. -/
structure MergeLaw (env : Environment) (directory : RawText) (i : Invocation) (s : Settings)
    (answer : Except Failed MatrixSettings) : Prop where
  fails_iff : (∃ f, answer = .error f) ↔ i.testRunner = none ∧
    ∃ path text, s.testRunner = some path ∧ path.text? = some text ∧
      ∃ e, Reference.expand env path = .error e
  /-- A path fails for a variable that it refers to without a default and that has no value. -/
  expansion_fails_iff : ∀ path text, path.text? = some text →
    ((∃ e, Reference.expand env path = .error e) ↔
      ∃ name, .named name none ∈ Reference.parts text.toList ∧
        ∀ value, ¬Reference.Holds env (String.ofList name) value)
  failure : ∀ f, answer = .error f →
    s.testRunner = some f.path ∧ Reference.expand env f.path = .error f.cause
  server : ∀ m, answer = .ok m → m.server = i.memcached
  given : ∀ m path, answer = .ok m → i.testRunner = some path → m.testRunner = path
  fromFile : ∀ m path, answer = .ok m → i.testRunner = none → s.testRunner = some path →
    Reference.expand env path = .ok m.testRunner ∧ (path.text? = none → m.testRunner = path)
  /-- The default stands beside the program. -/
  default : ∀ m, answer = .ok m → i.testRunner = none → s.testRunner = none →
    m.testRunner = join directory "test_memcached.py"
  smp : ∀ m, answer = .ok m → (∀ n, i.smp = some n → m.smp = n) ∧
    (∀ n, i.smp = none → s.smp = some n → m.smp = n) ∧ (i.smp = none → s.smp = none → m.smp = 2)
  fast : ∀ m, answer = .ok m → (m.fast = true ↔ i.fast = true ∨ s.fast = true)
  /-- With a test-runner of the command line neither that of the file nor the environment
  matters. -/
  runner_hides : i.testRunner.isSome = true → ∀ env' t,
    resolve env' directory i { s with testRunner := t } = answer
  smp_hides : i.smp.isSome = true → ∀ n, resolve env directory i { s with smp := n } = answer

end MatrixHarness.Resolution
