import JobContainers.Proofs.ShellSteps
import JobContainers.Proofs.Shutdown

/-!
The scripts of hooks, run. Between two moves that need the outside a script goes on by itself; where
it stands before each such move is a phase of the hook, and the move is a step of the hook.
-/

set_option autoImplicit false

namespace JobContainers

/-- Letters, digits, hyphens and underscores. Letters of other scripts are not told apart from the
other characters beyond ASCII, which need not be excluded. -/
def plainName (name : String) : Bool :=
  name.toList.all fun c => c.isAlphanum || c = '-' || c = '_' || 128 ≤ c.toNat

namespace DrainHook

open Shell Session

def codeText (code : UInt8) : String := .ofList (Decimal.digitText code.toNat)

def functions (job : String) (n : Nat) : List (String × Script) := [("waitExit", waitExit job n)]

def Free (functions : List (String × Script)) : Prop :=
  ∀ name, name ≠ "waitExit" → functions.lookup name = none

/-- Where a shell stands at a phase of its hook. -/
inductive At : DrainHook → Phase → Session → Prop
  | checking {job : String} {n : Nat} {sh : Session} (known : sh.functions = functions job n)
      (script : sh.vars "s" = drainPath job) (here : sh.frames = [⟨guarded job, []⟩]) :
      At (leader job n) .started sh
  | running {job : String} {n : Nat} {sh : Session} (known : sh.functions = functions job n)
      (script : sh.vars "s" = drainPath job)
      (here : sh.frames = [⟨round, []⟩, ⟨rounds, []⟩]) : At (leader job n) .draining sh
  | stamping {job : String} {n : Nat} {code : UInt8} {sh : Session} {args : List String}
      {frames : List Frame} (known : sh.functions = functions job n)
      (kept : sh.vars "e" = codeText code) (here : sh.frames = ⟨stamp job n, args⟩ :: frames) :
      At (leader job n) (.drained code) sh
  | waiting {hook : DrainHook} {code : UInt8} {sh : Session} {w : Word} {rest : Script}
      {args : List String} {frames : List Frame} (free : Free sh.functions)
      (means : ∀ other : Session, other.vars = sh.vars →
        other.number? args w = some (code.toNat : Int))
      (here : sh.frames = ⟨leave hook.stamps w rest, args⟩ :: frames) : At hook (.waiting code) sh
  | leaving {hook : DrainHook} {code : UInt8} {sh : Session} {w : Word} {rest : Script}
      {args : List String} {frames : List Frame} (free : Free sh.functions)
      (means : sh.number? args w = some (code.toNat : Int))
      (here : sh.frames = ⟨.command (.call "exit" [w]) rest, args⟩ :: frames) :
      At hook (.leaving code) sh

/-- The move that needs the outside at a phase, and the phases that it leads to. -/
inductive Offers : DrainHook → Phase → Move → Prop
  | check {job : String} {n : Nat} {next : Bool → Session}
      (missing : Comes (At (leader job n) (.drained 0)) (next false))
      (found : Comes (At (leader job n) .draining) (next true)) :
      Offers (leader job n) .started (.check (drainPath job) next)
  | launch {job : String} {n : Nat} {next : UInt8 → Int → Session}
      (fails : ∀ code output, code ≠ 0 → Comes (At (leader job n) (.drained code)) (next code output))
      (again : ∀ output < 0, Comes (At (leader job n) .draining) (next 0 output))
      (ends : ∀ output ≥ 0, Comes (At (leader job n) (.drained 0)) (next 0 output)) :
      Offers (leader job n) .draining (.launch (drainPath job) next)
  | touch {job : String} {n : Nat} {code : UInt8} {next : Session}
      (waits : Comes (At (leader job n) (.waiting code)) next) :
      Offers (leader job n) (.drained code) (.touch (stampPath job) next)
  | count {hook : DrainHook} {code : UInt8} {next : Nat → Session}
      (few : ∀ entries < hook.stamps, Comes (At hook (.waiting code)) (next entries))
      (enough : ∀ entries ≥ hook.stamps, Comes (At hook (.leaving code)) (next entries)) :
      Offers hook (.waiting code) (.count Volume.drainStamps next)
  | exit {hook : DrainHook} {code : UInt8} : Offers hook (.leaving code) (.exit code)

variable {hook : DrainHook} {job name : String} {n : Nat} {code : UInt8} {sh : Session}
  {args : List String} {frames : List Frame} {w : Word} {rest : Script}

theorem free_functions (job : String) (n : Nat) : Free (functions job n) := by
  intro name other
  have differs : (name == "waitExit") = false := by simpa using other
  rw [functions, List.lookup_cons, differs]
  rfl

/-! Words of the scripts -/

theorem inert_of_plainName (plain : plainName name = true) : name.toList.all isInert = true := by
  rw [plainName, List.all_eq_true] at plain
  rw [List.all_eq_true]
  intro c member
  have kind := plain c member
  simp only [Bool.or_eq_true, decide_eq_true_eq] at kind
  rw [isInert]
  rcases kind with ((letter | rfl) | rfl) | wide
  · rw [letter]
    rfl
  · decide
  · decide
  · rw [decide_eq_true wide, Bool.or_true, Bool.true_or]

theorem isSingle_plain {start : String} (front : isSingle start = true)
    (plain : plainName name = true) : isSingle (start ++ name) = true :=
  isSingle_append front (inert_of_plainName plain)

theorem isSingle_stampPath (plain : plainName job = true) : isSingle (stampPath job) = true :=
  isSingle_plain (by decide) plain

theorem isSingle_drainPath (plain : plainName job = true) : isSingle (drainPath job) = true :=
  isSingle_append (isSingle_plain (by decide) plain) (by decide +kernel)

theorem number?_code (known : sh.value? args w = some (codeText code)) :
    sh.number? args w = some (code.toNat : Int) :=
  number?_of_value known

theorem value?_zero : sh.value? args (.bare "0") = some (codeText 0) := by
  rw [value?_single isSingle_zero, zero_text]
  rfl

theorem number?_zero : sh.number? args (.inQuotes "0") = some 0 := by
  have known : sh.value? args (.inQuotes "0") = some (.ofList (Decimal.digitText 0)) := by
    rw [value?_inQuotes, text?_single isSingle_zero, ← zero_text]
  exact number?_of_value known

/-! From one phase to the next -/

theorem comes_stamping (known : sh.functions = functions job n)
    (here : sh.frames = ⟨callWaitExit w, args⟩ :: frames)
    (value : sh.value? args w = some (codeText code)) :
    Comes (At (leader job n) (.drained code)) sh := by
  have body : sh.functions.lookup "waitExit" = some (waitExit job n) := by
    rw [known]
    rfl
  apply Comes.call here body value
  apply Comes.assign rfl
  · rw [value?_inQuotes, text?_parameter "1" (by simp)]
    rfl
  · have kept : Function.update sh.vars "e" (codeText code) "e" = codeText code :=
      Function.update_self ..
    exact .here (.stamping known kept rfl)

theorem comes_running (known : sh.functions = functions job n) (script : sh.vars "s" = drainPath job)
    (here : sh.frames = [⟨rounds, []⟩]) : Comes (At (leader job n) .draining) sh := by
  apply Comes.always here
  apply Comes.here
  exact .running known script rfl

theorem comes_echo {goal : Session → Prop} {text : String} (free : Free sh.functions)
    (here : sh.frames = ⟨echo text rest, args⟩ :: frames)
    (behind : Comes goal { sh with status := none, frames := ⟨rest, args⟩ :: frames }) :
    Comes goal sh :=
  .idle here (by decide) (free "echo" (by decide)) behind

structure Ran (job : String) (n : Nat) (code : UInt8) (output : Int) (sh : Session) : Prop where
  known : sh.functions = functions job n
  script : sh.vars "s" = drainPath job
  out : sh.vars "out" = .ofList (integerText output)
  status : sh.vars "status" = codeText code
  here : sh.frames = [⟨checkStatus, []⟩, ⟨rounds, []⟩]

namespace Ran

variable {output : Int}

theorem text?_status (ran : Ran job n code output sh) {other : Session}
    (same : other.vars = sh.vars) : other.text? [] "$status".toList = some (codeText code) := by
  rw [text?_named "status" (by simp) (by decide) (by decide), same, ran.status]

theorem number?_out (ran : Ran job n code output sh) {other : Session}
    (same : other.vars = sh.vars) : other.number? [] (.inQuotes "$out") = some output := by
  rw [number?, value?_inQuotes, text?_named "out" (by simp) (by decide) (by decide), same,
    ran.out, Option.bind_some, String.toList_ofList, Quantity.integer?_integerText]

theorem comes_checked {goal : Session → Prop} (ran : Ran job n code output sh)
    (behind : Comes goal { sh with
      status := none
      frames := [⟨if code ≠ 0 then failed else .finish, []⟩, ⟨checkOutput, []⟩, ⟨rounds, []⟩] }) :
    Comes goal sh := by
  have number : sh.number? [] (.inQuotes "$status") = some (code.toNat : Int) :=
    number?_code (ran.text?_status rfl)
  have holds : Comparison.differs.holds (code.toNat : Int) 0 = decide (code ≠ 0) := by
    simp [Comparison.holds, ← UInt8.toNat_inj]
  refine Comes.compares ran.here number number?_zero ?_
  rw [holds]
  simpa only [decide_eq_true_eq] using behind

theorem comes_failed (ran : Ran job n code output sh) (failed : code ≠ 0) :
    Comes (At (leader job n) (.drained code)) sh := by
  apply ran.comes_checked
  rw [if_pos failed]
  refine comes_echo (ran.known ▸ free_functions job n) rfl ?_
  exact comes_stamping ran.known rfl
    (value?_bare (ran.text?_status rfl) (isSingle_digitText _))

theorem comes_judged {goal : Session → Prop} (ran : Ran job n 0 output sh)
    (behind : Comes goal { sh with
      status := none
      frames := [⟨if output < 0 then dynamicWait else staticWait, []⟩, ⟨.finish, []⟩, ⟨rounds, []⟩] }) :
    Comes goal sh := by
  apply ran.comes_checked
  rw [if_neg (not_not.mpr rfl)]
  apply Comes.finish rfl
  apply Comes.blank rfl
  refine Comes.compares rfl (ran.number?_out rfl) number?_zero ?_
  simpa only [Comparison.holds, decide_eq_true_eq] using behind

theorem comes_again (ran : Ran job n 0 output sh) (negative : output < 0) :
    Comes (At (leader job n) .draining) sh := by
  have free : Free sh.functions := ran.known ▸ free_functions job n
  apply ran.comes_judged
  rw [if_pos negative]
  refine comes_echo free rfl ?_
  refine Comes.idle rfl (by decide) (free "sleep" (by decide)) ?_
  refine comes_echo free rfl ?_
  apply Comes.finish rfl
  apply Comes.finish rfl
  exact comes_running ran.known ran.script rfl

theorem comes_ended (ran : Ran job n 0 output sh) (static : 0 ≤ output) :
    Comes (At (leader job n) (.drained 0)) sh := by
  have free : Free sh.functions := ran.known ▸ free_functions job n
  apply ran.comes_judged
  rw [if_neg (not_lt.mpr static)]
  refine comes_echo free rfl ?_
  refine Comes.idle rfl (by decide) (free "sleep" (by decide)) ?_
  refine comes_echo free rfl ?_
  exact comes_stamping ran.known rfl value?_zero

end Ran

theorem comes_ran {output : Int} (known : sh.functions = functions job n)
    (script : sh.vars "s" = drainPath job) (out : sh.vars "out" = .ofList (integerText output))
    (status : sh.status = some code)
    (here : sh.frames =
      [⟨.command (.assign "status" (.bare "$?")) (.blank checkStatus), []⟩, ⟨rounds, []⟩]) :
    Comes (Ran job n code output) sh := by
  have value : sh.value? [] (.bare "$?") = some (codeText code) := by
    refine value?_bare ?_ (isSingle_digitText _)
    rw [text?_parameter "?" (by simp), parameter?, if_pos rfl, status]
    rfl
  apply Comes.assign here value
  apply Comes.blank rfl
  apply Comes.here
  constructor
  · exact known
  · simpa using script
  · simpa using out
  · simp
  · rfl

theorem offers_launch (plain : plainName job = true) (known : sh.functions = functions job n)
    (script : sh.vars "s" = drainPath job) (here : sh.frames = [⟨round, []⟩, ⟨rounds, []⟩]) :
    ∃ move, sh.move? = some move ∧ Offers (leader job n) .draining move := by
  have program : sh.value? [] (.bare "$s") = some (drainPath job) := by
    refine value?_bare ?_ (isSingle_drainPath plain)
    rw [text?_named "s" (by simp) (by decide) (by decide), script]
  have ran : ∀ (code : UInt8) (output : Int), Comes (Ran job n code output) { sh with
      vars := Function.update sh.vars "out" (.ofList (integerText output))
      status := some code
      frames :=
        [⟨.command (.assign "status" (.bare "$?")) (.blank checkStatus), []⟩, ⟨rounds, []⟩] } := by
    intro code output
    apply comes_ran
    · exact known
    · simpa using script
    · simp
    · rfl
    · rfl
  refine ⟨_, move?_launch here program, .launch ?_ ?_ ?_⟩
  · intro code output failed
    exact (ran code output).trans fun _ ran => ran.comes_failed failed
  · intro output negative
    exact (ran 0 output).trans fun _ ran => ran.comes_again negative
  · intro output static
    exact (ran 0 output).trans fun _ ran => ran.comes_ended static

theorem offers_check (known : sh.functions = functions job n) (script : sh.vars "s" = drainPath job)
    (here : sh.frames = [⟨guarded job, []⟩]) :
    ∃ move, sh.move? = some move ∧ Offers (leader job n) .started move := by
  have free : Free sh.functions := known ▸ free_functions job n
  have program : sh.value? [] (.inQuotes "$s") = some (drainPath job) := by
    rw [value?_inQuotes, text?_named "s" (by simp) (by decide) (by decide), script]
  refine ⟨_, move?_check here program, .check ?_ ?_⟩
  · exact comes_stamping known rfl value?_zero
  · apply Comes.finish rfl
    refine comes_echo free rfl ?_
    exact comes_running known script rfl

theorem offers_touch (plain : plainName job = true) (known : sh.functions = functions job n)
    (kept : sh.vars "e" = codeText code) (here : sh.frames = ⟨stamp job n, args⟩ :: frames) :
    ∃ move, sh.move? = some move ∧ Offers (leader job n) (.drained code) move := by
  have free := free_functions job n
  rw [← known] at free
  refine ⟨_, move?_touch here (free "touch" (by decide))
    (value?_single (isSingle_stampPath plain)), .touch ?_⟩
  refine comes_echo free rfl ?_
  refine .here (.waiting free ?_ rfl)
  intro other same
  apply number?_code
  rw [value?_inQuotes, text?_parameter "e" (by simp),
    parameter?_named (by decide) (by decide), same]
  exact congrArg some kept

theorem offers_count (free : Free sh.functions)
    (means : ∀ other : Session, other.vars = sh.vars →
      other.number? args w = some (code.toNat : Int))
    (here : sh.frames = ⟨leave hook.stamps w rest, args⟩ :: frames) :
    ∃ move, sh.move? = some move ∧ Offers hook (.waiting code) move := by
  have place : isSingle Volume.drainStamps = true := by decide
  refine ⟨_, move?_count here (value?_single place)
    (number?_of_value (value?_single (isSingle_digitText _))), .count ?_ ?_⟩
  · intro entries few
    have less : (entries : Int) < hook.stamps := by omega
    rw [if_pos less]
    refine Comes.idle rfl (by decide) (free "sleep" (by decide)) ?_
    apply Comes.finish rfl
    exact .here (.waiting free means rfl)
  · intro entries enough
    have more : ¬(entries : Int) < hook.stamps := by omega
    rw [if_neg more]
    exact .here (.leaving free (means _ rfl) rfl)

section Plain

variable (plain : ∀ job, hook.stampName? = some job → plainName job = true)

include plain

/-- At each phase the move that needs the outside is the hook's. -/
theorem At.offers {phase : Phase} (stands : At hook phase sh) :
    ∃ move, sh.move? = some move ∧ Offers hook phase move := by
  cases stands with
  | checking known script here => exact offers_check known script here
  | running known script here => exact offers_launch (plain _ rfl) known script here
  | stamping known kept here => exact offers_touch (plain _ rfl) known kept here
  | waiting free means here => exact offers_count free means here
  | leaving free means here => exact ⟨_, move?_exit here (free "exit" (by decide)) means, .exit⟩

theorem comes_begin : Comes (At hook hook.begin) (Session.start hook.program) := by
  cases hook with
  | leader job n =>
      have script : Function.update (fun _ => "") "s" (drainPath job) "s" = drainPath job :=
        Function.update_self ..
      apply Comes.blank rfl
      refine Comes.idle rfl (by decide) rfl ?_
      apply Comes.function rfl
      refine Comes.assign rfl (text?_single (isSingle_drainPath (plain job rfl))) ?_
      exact .here (.checking rfl script rfl)
  | follower n =>
      have free : Free [] := fun _ _ => rfl
      apply Comes.blank rfl
      refine comes_echo free rfl ?_
      refine .here (.waiting free ?_ rfl)
      intro other _
      exact number?_code value?_zero

end Plain

/-! Stamps as files -/

theorem stampPath_injective : Function.Injective stampPath := by
  intro first second same
  have texts := congrArg String.toList same
  simp only [stampPath, String.toList_append] at texts
  exact String.toList_inj.mp (List.append_cancel_left texts)

theorem isEntry_stampPath (plain : plainName name = true) :
    isEntry Volume.drainStamps (stampPath name) = decide (name ≠ "") := by
  have path : (stampPath name).toList = (Volume.drainStamps ++ "/").toList ++ name.toList := by
    rw [stampPath, String.toList_append]
  have letters : ∀ c ∈ name.toList, c ≠ '.' ∧ c ≠ '/' := by
    intro c member
    have kind := List.all_eq_true.mp plain c member
    constructor <;> rintro rfl <;> exact absurd kind (by decide)
  have shown : name.toList.head? ≠ some '.' := by
    intro head
    exact (letters '.' (List.mem_of_mem_head? head)).1 rfl
  have flat : name.toList.contains '/' = false := by
    rw [List.contains_eq_mem, decide_eq_false_iff_not]
    intro member
    exact (letters '/' member).2 rfl
  rw [isEntry, path, List.drop_left, List.isPrefixOf_iff_prefix.mpr (List.prefix_append _ _), flat,
    decide_eq_true shown]
  simp

theorem entries_stamps {stamps : Finset String} (plain : ∀ name ∈ stamps, plainName name = true) :
    entries Volume.drainStamps (stamps.image stampPath) = listed stamps := by
  have same : (stamps.filter fun name => isEntry Volume.drainStamps (stampPath name) = true) =
      stamps.erase "" := by
    rw [← Finset.filter_ne']
    apply Finset.filter_congr
    intro name member
    rw [isEntry_stampPath (plain name member), decide_eq_true_eq]
  rw [entries, Finset.filter_image, Finset.card_image_of_injective _ stampPath_injective, same,
    listed]

def Shows (hook : DrainHook) (phase : Phase) : State → Prop
  | .running sh => Comes (At hook phase) sh
  | .exited code => phase = .gone code

section Moves

variable {phase phase' : Phase} {m : Move} {stamps stamps' : Finset String} {event : Option Event}

/-- What comes of a move is a step of the hook, or a look at the stamps in vain. -/
theorem Offers.sound {files : Finset String} {state : State} (offers : Offers hook phase m)
    (plain : ∀ name ∈ stamps, plainName name = true)
    (result : m.Result (stamps.image stampPath) event files state) :
    ∃ stamps' phase', files = stamps'.image stampPath ∧ Shows hook phase' state ∧
      (event = none ∧ stamps' = stamps ∧ phase' = phase ∨
        hook.Step stamps phase event stamps' phase') := by
  cases offers with
  | check missing found =>
      cases result with
      | check _ _ executable =>
          cases executable with
          | false => exact ⟨stamps, _, rfl, missing, .inr (.missing ..)⟩
          | true => exact ⟨stamps, _, rfl, found, .inr (.found ..)⟩
  | launch fails again ends =>
      cases result with
      | launch _ _ code output =>
          by_cases failed : code = 0
          · subst failed
            by_cases negative : output < 0
            · exact ⟨stamps, _, rfl, again output negative, .inr (.again _ _ _ _ negative)⟩
            · have static : 0 ≤ output := not_lt.mp negative
              exact ⟨stamps, _, rfl, ends output static, .inr (.ends _ _ _ _ static)⟩
          · exact ⟨stamps, _, rfl, fails code output failed, .inr (.fails _ _ _ _ _ failed)⟩
  | @touch job n code next waits =>
      cases result with
      | touch =>
          exact ⟨insert job stamps, _, Finset.image_insert .. |>.symm, waits, .inr (.stamp ..)⟩
  | count few enough =>
      cases result with
      | count =>
          rw [entries_stamps plain]
          by_cases full : hook.stamps ≤ listed stamps
          · exact ⟨stamps, _, rfl, enough _ full, .inr (.release _ _ _ full)⟩
          · exact ⟨stamps, _, rfl, few _ (not_le.mp full), .inl ⟨rfl, rfl, rfl⟩⟩
  | exit =>
      cases result with
      | exit => exact ⟨stamps, _, rfl, rfl, .inr (.leave ..)⟩

theorem Offers.complete (offers : Offers hook phase m)
    (plain : ∀ name ∈ stamps, plainName name = true)
    (step : hook.Step stamps phase event stamps' phase') :
    ∃ state, m.Result (stamps.image stampPath) event (stamps'.image stampPath) state ∧
      Shows hook phase' state := by
  cases step with
  | missing =>
      cases offers with
      | check missing found => exact ⟨_, .check .., missing⟩
  | found =>
      cases offers with
      | check missing found => exact ⟨_, .check .., found⟩
  | fails _ _ _ code output failed =>
      cases offers with
      | launch fails again ends => exact ⟨_, .launch .., fails code output failed⟩
  | again _ _ _ output negative =>
      cases offers with
      | launch fails again ends => exact ⟨_, .launch .., again output negative⟩
  | ends _ _ _ output static =>
      cases offers with
      | launch fails again ends => exact ⟨_, .launch .., ends output static⟩
  | stamp =>
      cases offers with
      | touch waits =>
          rw [Finset.image_insert]
          exact ⟨_, .touch .., waits⟩
  | release _ _ _ full =>
      cases offers with
      | count few enough =>
          refine ⟨_, .count .., ?_⟩
          rw [entries_stamps plain]
          exact enough _ full
  | leave =>
      cases offers with
      | exit => exact ⟨_, .exit .., rfl⟩

end Moves

end DrainHook

end JobContainers
