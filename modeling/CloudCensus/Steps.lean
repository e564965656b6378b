namespace CloudCensus.Steps

variable {σ ι ρ : Type}

def run (step : σ → ι → ρ × σ) (s : σ) : List ι → List ρ × σ
  | [] => ([], s)
  | x :: rest =>
    let (reply, s) := step s x
    let (replies, s) := run step s rest
    (reply :: replies, s)

end CloudCensus.Steps
