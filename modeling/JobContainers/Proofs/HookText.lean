import JobContainers.Drain

set_option autoImplicit false

namespace JobContainers

def Handler.command (h : Handler) : List String := (h.exec.map (·.command)).getD []

def Handler.script (h : Handler) : List Char := (h.command[2]?.getD "").toList

namespace DrainHook

open Shell

def isLeader : DrainHook → Bool
  | leader _ _ => true
  | follower _ => false

def stampName? : DrainHook → Option String
  | leader job _ => some job
  | follower _ => none

theorem filterMap_stampName? (hooks : List DrainHook) :
    (hooks.filter isLeader).filterMap stampName? = hooks.filterMap stampName? := by
  rw [List.filterMap_filter]
  congr 1
  funext hook
  cases hook <;> rfl

def stamps : DrainHook → Nat
  | leader _ n => n
  | follower n => n

def leaderOpening : List String := ["", "shopt -s nullglob", "waitExit() \x7b", "\te=\"$1\""]

def leaderHead : String :=
  "\n".intercalate leaderOpening ++ ("\n" ++ ("\ttouch " ++ (Volume.drainStamps ++ "/")))

/-- Whether a handler starts like a leader. -/
def leads (h : Handler) : Bool := leaderHead.toList.isPrefixOf h.script

theorem script_handler (hook : DrainHook) : hook.handler.script = hook.script.toList := rfl

theorem leader_script (job : String) (stamps : Nat) :
    ∃ rest, (leader job stamps).script = leaderHead ++ (job ++ rest) := by
  -- the closing lines stay a variable, so that their literals are never taken apart
  obtain ⟨opening, closing, lines, openingText, more⟩ : ∃ opening closing,
      (leader job stamps).program.lines 0 =
        opening ++ (1, .command (.call "touch" [.bare (stampPath job)])) :: closing ∧
      opening.map Script.indented = leaderOpening ∧ closing.map Script.indented ≠ [] := by
    refine ⟨[_, _, _, _], _ :: _, rfl, ?_, List.cons_ne_nil _ _⟩
    decide
  have touch : Script.indented (1, .command (.call "touch" [.bare (stampPath job)])) =
      "\ttouch " ++ stampPath job := by
    have spelled : Line.text (.command (.call "touch" [.bare (stampPath job)])) =
        "touch " ++ stampPath job := rfl
    have tab : "\t" ++ "touch " = "\ttouch " := by decide
    rw [Script.indented, spelled, ← tab, String.append_assoc]
    rfl
  have opened : leaderOpening ≠ [] := List.cons_ne_nil _ _
  refine ⟨"\n" ++ "\n".intercalate (closing.map Script.indented), ?_⟩
  rw [script, Script.text, lines, List.map_append, List.map_cons, touch, openingText,
    String.intercalate_append_of_ne_nil opened (List.cons_ne_nil _ _),
    String.intercalate_cons_of_ne_nil more, leaderHead, stampPath]
  simp only [String.append_assoc]

theorem follower_script (stamps : Nat) :
    ∃ rest, (follower stamps).script = "\necho" ++ rest := by
  obtain ⟨opening, closing, lines, openingText, more⟩ : ∃ opening closing,
      (follower stamps).program.lines 0 = opening ++ closing ∧
        "\n".intercalate (opening.map Script.indented) =
          "\necho" ++ " \"Wait for drain scripts in other containers to finish\"" ∧
        opening.map Script.indented ≠ [] ∧ closing.map Script.indented ≠ [] := by
    refine ⟨[_, _], _ :: _, rfl, ?_, List.cons_ne_nil _ _, List.cons_ne_nil _ _⟩
    decide
  rw [script, Script.text, lines, List.map_append,
    String.intercalate_append_of_ne_nil more.1 more.2, openingText]
  simp only [String.append_assoc]
  exact ⟨_, rfl⟩

theorem leads_leader (job : String) (stamps : Nat) : leads (leader job stamps).handler = true := by
  obtain ⟨rest, text⟩ := leader_script job stamps
  rw [leads, script_handler, text, String.toList_append]
  exact List.isPrefixOf_iff_prefix.mpr (List.prefix_append _ _)

theorem leads_follower (stamps : Nat) : leads (follower stamps).handler = false := by
  obtain ⟨rest, text⟩ := follower_script stamps
  have leaderStart : leaderHead.toList = '\n' :: 's' :: leaderHead.toList.drop 2 := by
    decide
  have followerStart : ("\necho" ++ rest).toList = '\n' :: 'e' :: ("cho" ++ rest).toList := by
    simp
  rw [leads, script_handler, text, leaderStart, followerStart]
  rfl

theorem leads_handler (hook : DrainHook) : leads hook.handler = hook.isLeader := by
  cases hook with
  | leader job stamps => exact leads_leader job stamps
  | follower stamps => exact leads_follower stamps

end DrainHook

end JobContainers
