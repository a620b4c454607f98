import JobContainers.Proofs.QuantityNumber
import JobContainers.Proofs.ShellRuns

set_option autoImplicit false

namespace JobContainers.Shell

theorem isSingle_digitText (n : Nat) : isSingle (.ofList (Decimal.digitText n)) = true := by
  have full : String.ofList (Decimal.digitText n) ≠ "" := by
    simpa using Decimal.digitText_ne_nil n
  rw [isSingle, decide_eq_true full, Bool.true_and, String.toList_ofList, List.all_eq_true]
  intro c member
  have digit := Decimal.digits_digitText n c member
  rw [isInert, Char.isAlphanum, digit, Bool.or_true, Bool.true_or, Bool.true_or]

theorem isSingle_append {a b : String} (front : isSingle a = true)
    (back : b.toList.all isInert = true) : isSingle (a ++ b) = true := by
  rw [isSingle, Bool.and_eq_true, decide_eq_true_eq] at front ⊢
  rw [String.toList_append, List.all_append, front.2, back]
  simp [front.1]

namespace Session

variable {sh : Session} {args : List String} {name value text : String} {w : Word} {n : Nat}

theorem parameter?_named (named : isName name.toList = true) (other : name ≠ "1") :
    sh.parameter? args name = some (sh.vars name) := by
  have mark : name ≠ "?" := by
    rintro rfl
    exact absurd named (by decide)
  rw [parameter?, if_neg mark, if_neg other, if_pos named]

theorem text?_parameter (name : String) (spelled : text.toList = '$' :: name.toList) :
    sh.text? args text.toList = sh.parameter? args name := by
  rw [spelled, text?, String.ofList_toList]

theorem text?_named (name : String) (spelled : text.toList = '$' :: name.toList)
    (named : isName name.toList = true) (other : name ≠ "1") :
    sh.text? args text.toList = some (sh.vars name) := by
  rw [text?_parameter name spelled, parameter?_named named other]

theorem text?_plain (plain : '$' ∉ text.toList) : sh.text? args text.toList = some text := by
  rw [text?, if_neg plain, String.ofList_toList]
  rintro cs same
  exact plain (same ▸ List.mem_cons_self)

theorem value?_inQuotes : sh.value? args (.inQuotes text) = sh.text? args text.toList := rfl

theorem value?_bare (known : sh.text? args text.toList = some value)
    (single : isSingle value = true) : sh.value? args (.bare text) = some value := by
  have bare : sh.value? args (.bare text) = (sh.text? args text.toList).filter isSingle := rfl
  rw [bare, known, Option.filter_some, if_pos single]

theorem text?_single (single : isSingle text = true) : sh.text? args text.toList = some text := by
  apply text?_plain
  intro member
  rw [isSingle, Bool.and_eq_true, List.all_eq_true] at single
  exact absurd (single.2 '$' member) (by decide)

theorem value?_single (single : isSingle text = true) : sh.value? args (.bare text) = some text :=
  value?_bare (text?_single single) single

theorem number?_of_value (known : sh.value? args w = some (.ofList (Decimal.digitText n))) :
    sh.number? args w = some (n : Int) := by
  rw [number?, known, Option.bind_some, String.toList_ofList, Quantity.integer?_digitText]

theorem zero_text : "0" = String.ofList (Decimal.digitText 0) := by decide

theorem isSingle_zero : isSingle "0" = true := by
  rw [zero_text]
  exact isSingle_digitText 0

/-- A shell that comes to a goal on its own. -/
inductive Comes (goal : Session → Prop) : Session → Prop
  | here {sh : Session} (reached : goal sh) : Comes goal sh
  | on {sh next : Session} (move : sh.move? = some (.silent next)) (behind : Comes goal next) :
      Comes goal sh

theorem Comes.trans {goal next : Session → Prop} (first : Comes next sh)
    (onward : ∀ other, next other → Comes goal other) : Comes goal sh := by
  induction first with
  | here reached => exact onward _ reached
  | on move _ ih => exact .on move ih

section Steps

variable {goal : Session → Prop} {rest body yes no : Script} {frames : List Frame}

theorem Comes.blank (here : sh.frames = ⟨.blank rest, args⟩ :: frames)
    (behind : Comes goal { sh with frames := ⟨rest, args⟩ :: frames }) : Comes goal sh := by
  apply Comes.on ?_ behind
  rw [move?, here]

theorem Comes.finish (here : sh.frames = ⟨.finish, args⟩ :: frames)
    (behind : Comes goal { sh with status := none, frames := frames }) : Comes goal sh := by
  apply Comes.on ?_ behind
  rw [move?, here]
  rfl

theorem Comes.function (here : sh.frames = ⟨.function name body rest, args⟩ :: frames)
    (behind : Comes goal { sh with
      functions := (name, body) :: sh.functions, status := none, frames := ⟨rest, args⟩ :: frames }) :
    Comes goal sh := by
  apply Comes.on ?_ behind
  rw [move?, here]
  rfl

theorem Comes.always (here : sh.frames = ⟨.loop .always body rest, args⟩ :: frames)
    (behind : Comes goal { sh with
      status := none, frames := ⟨body, args⟩ :: ⟨.loop .always body rest, args⟩ :: frames }) :
    Comes goal sh := by
  apply Comes.on ?_ behind
  rw [move?, here]
  rfl

theorem Comes.assign (here : sh.frames = ⟨.command (.assign name w) rest, args⟩ :: frames)
    (known : sh.value? args w = some value)
    (behind : Comes goal { sh with
      vars := Function.update sh.vars name value, status := none, frames := ⟨rest, args⟩ :: frames }) :
    Comes goal sh := by
  apply Comes.on ?_ behind
  rw [move?, here]
  simp only [perform?, known]
  rfl

theorem Comes.idle {words : List Word}
    (here : sh.frames = ⟨.command (.call name words) rest, args⟩ :: frames)
    (idle : name ∈ Session.idle) (free : sh.functions.lookup name = none)
    (behind : Comes goal { sh with status := none, frames := ⟨rest, args⟩ :: frames }) :
    Comes goal sh := by
  apply Comes.on ?_ behind
  rw [move?, here]
  simp only [perform?, call?, free, if_pos idle]
  rfl

theorem Comes.call (here : sh.frames = ⟨.command (.call name [w]) rest, args⟩ :: frames)
    (known : sh.functions.lookup name = some body) (given : sh.value? args w = some value)
    (behind : Comes goal { sh with
      status := none, frames := ⟨body, [value]⟩ :: ⟨rest, args⟩ :: frames }) :
    Comes goal sh := by
  apply Comes.on ?_ behind
  rw [move?, here]
  simp only [perform?, call?, known, List.mapM_cons, given]
  rfl

theorem Comes.compares {how : Comparison} {left right : Word} {m n : Int}
    (here : sh.frames = ⟨.choice (.compares how left right) yes no rest, args⟩ :: frames)
    (first : sh.number? args left = some m) (second : sh.number? args right = some n)
    (behind : Comes goal { sh with
      status := none, frames := ⟨if how.holds m n then yes else no, args⟩ :: ⟨rest, args⟩ :: frames }) :
    Comes goal sh := by
  apply Comes.on ?_ behind
  rw [move?, here]
  simp only [test?, first, second]
  rfl

theorem move?_check {file : Word}
    (here : sh.frames = ⟨.choice (.notExecutable file) yes no rest, args⟩ :: frames)
    (known : sh.value? args file = some value) :
    sh.move? = some (.check value fun executable => { sh with
      status := none
      frames := ⟨if executable then no else yes, args⟩ :: ⟨rest, args⟩ :: frames }) := by
  rw [move?, here]
  simp only [test?, known, Option.map_some]
  congr 2
  funext executable
  cases executable <;> rfl

theorem move?_launch (here : sh.frames = ⟨.command (.capture name w) rest, args⟩ :: frames)
    (known : sh.value? args w = some value) :
    sh.move? = some (.launch value fun code output => { sh with
      vars := Function.update sh.vars name (.ofList (integerText output))
      status := some code
      frames := ⟨rest, args⟩ :: frames }) := by
  rw [move?, here]
  simp only [perform?, known]
  rfl

theorem move?_count {directory bound : Word} {command : Command} {n : Int}
    (here : sh.frames = ⟨.shortLoop (.fewerEntries directory bound) command rest, args⟩ :: frames)
    (known : sh.value? args directory = some value) (number : sh.number? args bound = some n) :
    sh.move? = some (.count value fun entries => { sh with
      status := none
      frames := (if (entries : Int) < n then
        [.command command .finish, .shortLoop (.fewerEntries directory bound) command rest]
        else [rest]).map (⟨·, args⟩) ++ frames }) := by
  rw [move?, here]
  simp only [test?, known, number, decide_eq_true_eq]
  rfl

theorem move?_touch (here : sh.frames = ⟨.command (.call "touch" [w]) rest, args⟩ :: frames)
    (free : sh.functions.lookup "touch" = none) (known : sh.value? args w = some value) :
    sh.move? = some (.touch value { sh with
      status := none, frames := ⟨rest, args⟩ :: frames }) := by
  have busy : "touch" ∉ idle := by decide
  rw [move?, here]
  simp only [perform?, call?, free, if_neg busy, known]
  rfl

theorem move?_exit {code : UInt8}
    (here : sh.frames = ⟨.command (.call "exit" [w]) rest, args⟩ :: frames)
    (free : sh.functions.lookup "exit" = none)
    (number : sh.number? args w = some (code.toNat : Int)) : sh.move? = some (.exit code) := by
  have busy : "exit" ∉ idle := by decide
  have other : "exit" ≠ "touch" := by decide
  have small : 0 ≤ (code.toNat : Int) ∧ (code.toNat : Int) < 256 := by
    have bound := code.toNat_lt
    omega
  have back : UInt8.ofNat (code.toNat : Int).toNat = code := by simp
  rw [move?, here]
  simp only [perform?, call?, free, if_neg busy, if_neg other, number, if_true]
  rw [Option.bind_eq_bind, Option.bind_some, if_pos small, back]

end Steps

end Session

end JobContainers.Shell
