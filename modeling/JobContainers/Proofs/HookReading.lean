import JobContainers.Proofs.HookRuns
import JobContainers.Proofs.ShellLayout

set_option autoImplicit false

namespace JobContainers

open Shell

/-- The script that a handler gives a shell. -/
def Handler.program? (h : Handler) : Option Script :=
  match h.command with
  | ["/bin/sh", "-c", text] => Script.read? text.toList
  | _ => none

namespace DrainHook

variable {job : String} {n : Nat}

theorem isQuotable_of_isInert {c : Char} (inert : isInert c = true) : isQuotable c = true := by
  rw [isQuotable, Bool.not_eq_true', List.contains_eq_mem, decide_eq_false_iff_not]
  intro member
  simp only [List.mem_cons, List.not_mem_nil, or_false] at member
  rcases member with rfl | rfl | rfl | rfl <;> exact absurd inert (by decide)

theorem wellFormed_bare {text : String} {c : Char} (single : isSingle text = true)
    (member : c ∈ text.toList) (foreign : ∀ k ∈ Key.all, c ∉ k.spelling.toList) :
    (Word.bare text).wellFormed = true := by
  have free : Key.ofSpelling? text = none := by
    rw [Key.ofSpelling?, List.find?_eq_none]
    intro k known same
    rw [decide_eq_true_eq] at same
    exact foreign k known (same ▸ member)
  have full : text.isEmpty = false := by
    rw [String.isEmpty_eq_false_iff]
    rintro rfl
    cases member
  rw [isSingle, Bool.and_eq_true, List.all_eq_true] at single
  have inside : text.toList.all isWordChar = true := by
    rw [List.all_eq_true]
    intro d placed
    rw [isWordChar, single.2 d placed, Bool.true_or]
  simp [Word.wellFormed, Word.bare, free, full, inside]

theorem wellFormed_number (n : Nat) :
    (Word.bare (.ofList (Decimal.digitText n))).wellFormed = true := by
  have digitless : Key.all.all (fun k => k.spelling.toList.all (!·.isDigit)) = true := by
    decide
  simp only [List.all_eq_true, Bool.not_eq_true'] at digitless
  obtain ⟨c, digits, parts⟩ := List.exists_cons_of_ne_nil (Decimal.digitText_ne_nil n)
  have member : c ∈ Decimal.digitText n := parts ▸ List.mem_cons_self
  apply wellFormed_bare (isSingle_digitText n) (c := c)
  · rwa [String.toList_ofList]
  · intro k known inside
    have digit := Decimal.digits_digitText n c member
    rw [digitless k known c inside] at digit
    cases digit

theorem quotable_of_inert {text : String} (inert : text.toList.all isInert = true) :
    text.toList.all isQuotable = true := by
  rw [List.all_eq_true] at inert ⊢
  exact fun c member => isQuotable_of_isInert (inert c member)

theorem wellFormed_program {hook : DrainHook}
    (plain : ∀ job, hook.stampName? = some job → plainName job = true) :
    hook.program.wellFormed = true := by
  have number := wellFormed_number hook.stamps
  cases hook with
  | leader job n =>
      have slash : ∀ k ∈ Key.all, '/' ∉ k.spelling.toList := by decide
      have touched : (Word.bare (stampPath job)).wellFormed = true := by
        apply wellFormed_bare (isSingle_stampPath (plain job rfl)) _ slash
        simp [stampPath]
      have script : (Word.inQuotes (drainPath job)).wellFormed = true := by
        have single := isSingle_drainPath (plain job rfl)
        rw [isSingle, Bool.and_eq_true] at single
        exact quotable_of_inert single.2
      have said : (Word.inQuotes ("Running drain script $s for " ++ job)).wellFormed = true := by
        have front : "Running drain script $s for ".toList.all isQuotable = true := by decide
        have back := quotable_of_inert (inert_of_plainName (plain job rfl))
        rw [Word.wellFormed, Word.inQuotes, if_pos rfl, String.toList_append, List.all_append, front,
          back]
        rfl
      rw [stamps] at number
      simp only [Script.wellFormed, program, waitExit, stamp, leave, echo, guarded, callWaitExit,
        Script.lines, List.all_cons, List.all_append, List.all_nil, Line.wellFormed,
        Command.wellFormed, Test.wellFormed, number, touched, script, said]
      decide +kernel
  | follower n =>
      rw [stamps] at number
      simp only [Script.wellFormed, program, leave, echo, Script.lines, List.all_cons, List.all_nil,
        Line.wellFormed, Command.wellFormed, Test.wellFormed, number]
      decide +kernel

/-- The script of a hook is read as the program that it was written from. -/
theorem program?_handler {hook : DrainHook}
    (plain : ∀ job, hook.stampName? = some job → plainName job = true) :
    hook.handler.program? = some hook.program := by
  have full : hook.program.lines 0 ≠ [] := by
    cases hook with
    | leader | follower => exact List.cons_ne_nil _ _
  exact Script.read?_text (wellFormed_program plain) full

example : (leader "nats" 2).script =
    "\nshopt -s nullglob\nwaitExit() \x7b\n\te=\"$1\"\n\ttouch /mnt/drain-stamps/nats\n"
    ++ "\techo \"Waiting for other drain scripts to finish.\"\n"
    ++ "\twhile [ $(ls -1 /mnt/drain-stamps | wc -l) -lt 2 ]; do sleep 5; done\n"
    ++ "\texit \"$e\"\n\x7d\ns=\"/var/vcap/jobs/nats/bin/drain\"\n"
    ++ "if [ ! -x \"$s\" ]; then\n\twaitExit 0\nfi\necho \"Running drain script $s for nats\"\n"
    ++ "while true; do\n\tout=$( $s )\n\tstatus=$?\n\n\tif [ \"$status\" -ne \"0\" ]; then\n"
    ++ "\t\techo \"$s FAILED with exit code $status\"\n\t\twaitExit $status\n\tfi\n\n"
    ++ "\tif [ \"$out\" -lt \"0\" ]; then\n"
    ++ "\t\techo \"Sleeping dynamic draining wait time for $s...\"\n\t\tsleep $\x7bout:1\x7d\n"
    ++ "\t\techo \"Running $s again\"\n\telse\n"
    ++ "\t\techo \"Sleeping static draining wait time for $s...\"\n\t\tsleep $out\n"
    ++ "\t\techo \"$s done\"\n\t\twaitExit 0\n\tfi\ndone\necho \"Done\"" := by
  decide +kernel

end DrainHook

end JobContainers
