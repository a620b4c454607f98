set_option autoImplicit false

namespace JobContainers.Progress

universe u v

variable {σ α ε : Type u}

def fold (step : σ → α → Except ε σ) : σ → List α → σ × Option ε
  | s, [] => (s, none)
  | s, x :: xs =>
    match step s x with
    | .ok s => fold step s xs
    | .error e => (s, some e)

/-- Updates the items of a list one after the other until a step fails. A step gives its item back
as far as it has come; later items stay as they are. -/
def update (step : σ → α → σ × α × Option ε) : σ → List α → σ × List α × Option ε
  | s, [] => (s, [], none)
  | s, x :: xs =>
    match step s x with
    | (s, x, some e) => (s, x :: xs, some e)
    | (s, x, none) =>
      let (s, xs, e) := update step s xs
      (s, x :: xs, e)

end JobContainers.Progress
