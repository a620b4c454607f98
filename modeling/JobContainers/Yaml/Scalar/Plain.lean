import JobContainers.Yaml.Input

set_option autoImplicit false

namespace JobContainers.Yaml.Plain

def continues (inFlow : Bool) (cs : List Located) : Bool :=
  let c := peek cs
  let next := charAt cs 1
  if c = ':' then !(isBoundary next || (inFlow && isFlow next))
  else !(inFlow && isFlow c)

def run (inFlow : Bool) : List Located → List Char × List Located
  | [] => ([], [])
  | l :: cs =>
    if !isBoundary l.char && continues inFlow (l :: cs) then
      let (text, rest) := run inFlow cs
      (l.char :: text, rest)
    else ([], l :: cs)

structure Break where
  pads : List Char
  breaks : Nat

def Break.text (b : Break) : List Char :=
  if b.breaks = 0 then b.pads
  else if b.breaks = 1 then [' ']
  else List.replicate (b.breaks - 1) '\n'

def Break.newline (b : Break) : Break := ⟨[], b.breaks + 1⟩

def skipBreak (indent : Int) : LineMode → Break → List Located → Option (Break × List Located)
  | _, b, [] => some (b, [])
  | mode, b, l :: cs =>
    if isBreak l.char then skipBreak indent .text (if mode = .comment then b else b.newline) cs
    else if isEnd l.char then some (b, l :: cs)
    else match mode with
      | .comment => skipBreak indent .comment b cs
      | .tabbed =>
        if isPad l.char then skipBreak indent .tabbed b cs
        else if l.char = '#' then skipBreak indent .comment b cs
        else none
      | .text =>
        if !isPad l.char then some (b, l :: cs)
        else if b.breaks = 0 then skipBreak indent .text { b with pads := b.pads ++ [l.char] } cs
        else if (l.column : Int) < indent && l.char = '\t' then skipBreak indent .tabbed b cs
        else skipBreak indent .text b cs

/-- Runs of text alternate with blanks until an indicator, a comment, a border of the document or,
outside flow collections, a line that is indented too little. -/
def scanFrom (indent : Int) (inFlow : Bool) :
    Nat → List Char → Break → List Located → Option (List Char × List Located)
  | 0, _, _, _ => none
  | fuel + 1, text, gap, cs =>
    if (columnOf cs = 0 && bordersDocument cs) || peek cs = '#' then some (text, cs)
    else if inFlow && peek cs = '-' && isFlow (charAt cs 1) then none
    else
      let (more, rest) := run inFlow cs
      let text := if more.isEmpty then text else text ++ gap.text ++ more
      if !(isPad (peek rest) || isBreak (peek rest)) then some (text, rest)
      else match skipBreak indent .text ⟨[], 0⟩ rest with
        | none => none
        | some (gap, rest) =>
          if !inFlow && (columnOf rest : Int) < indent then some (text, rest)
          else scanFrom indent inFlow fuel text gap rest

def scan (indent : Int) (inFlow : Bool) (cs : List Located) : Option (String × List Located) :=
  match scanFrom indent inFlow (cs.length + 1) [] ⟨[], 0⟩ cs with
  | some (first :: text, rest) => some (.ofList (first :: text), rest)
  | _ => none

end JobContainers.Yaml.Plain
