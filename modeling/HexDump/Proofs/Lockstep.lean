import HexDump.Proofs.Passage

/-! Two sources read in lockstep. As long as each line of one comes to the record of
the line of the other, the two runs say and do the same; they differ in what they
have left to read and in how many bytes they have taken. -/
namespace HexDump

namespace Report

def moved (r : Report) (source : Source) (consumed : Nat) : Report :=
  r.reread (fun _ => source) (fun _ => consumed)

variable (r : Report) (source : Source) (consumed : Nat)

@[simp] theorem movedSource : (r.moved source consumed).source = source := rfl

@[simp] theorem movedConsumed : (r.moved source consumed).consumed = consumed := rfl

@[simp] theorem movedSink : (r.moved source consumed).sink = r.sink := rfl

@[simp] theorem movedShown : (r.moved source consumed).shown = r.shown := rfl

end Report

namespace Progress

def moved (p : Progress) (source : Source) (consumed : Nat) : Progress :=
  p.reread (fun _ => source) (fun _ => consumed)

theorem finishKeeps (p : Progress) :
    p.finish.source = p.source ∧ p.finish.consumed = p.consumed := by
  unfold finish
  split <;> exact ⟨rfl, rfl⟩

theorem formatPassed {options : Options} {line : Bytes} {p q : Progress}
    (next : p.format options line = .next q) : q.source = p.source ∧ q.consumed = p.consumed := by
  refine ⟨formatSource next, ?_⟩
  unfold format at next
  split at next
  · cases next
    rfl
  · unfold emit at next
    dsimp only at next
    split at next
    · cases next
      rfl
    · contradiction

/-- Related sources have both come to their ends, or go on with two lines of the
same record. The surplus is how many bytes more the second source still has. -/
def Lockstep (options : Options) (ends : Source → Source → Prop)
    (related : Nat → Source → Source → Prop) : Prop :=
  ∀ ⦃surplus s t⦄, related surplus s t →
    (surplus = 0 ∧ ends s t) ∨
    ∃ line other mid mid' extra left, s.nextLine = .line line mid ∧ t.nextLine = .line other mid' ∧
      options.recordOf line = options.recordOf other ∧ other.length = line.length + extra ∧
      surplus = extra + left ∧ related left mid mid'

variable {options : Options} {ends : Source → Source → Prop}
  {related : Nat → Source → Source → Prop}

theorem advanceMoved {p : Progress} {t mid mid' : Source} {line other : Bytes}
    (one : p.source.nextLine = .line line mid) (two : t.nextLine = .line other mid')
    (same : options.recordOf line = options.recordOf other) (origin : Bytes) (consumed : Nat) :
    (p.moved t consumed).advance options origin =
      (p.advance options origin).reread (fun _ => mid') (fun _ => consumed + other.length) := by
  rw [advanceLine one, advanceLine (p := p.moved t consumed) two]
  exact formatReread same (fun _ => mid') (fun _ => consumed + other.length) (p.consume line mid)

theorem runLockstep (lockstep : Lockstep options ends related) (origin : Bytes) (p : Progress)
    {surplus : Nat} {t : Source} (start : related surplus p.source t) (ahead : Nat) :
    (∃ spent left t', surplus = spent + left ∧ related left (p.run options origin).source t' ∧
      (p.run options origin).CutShort ∧
      (p.moved t (p.consumed + ahead)).run options origin =
        (p.run options origin).moved t' ((p.run options origin).consumed + ahead + spent)) ∨
    (∃ (q : Progress) (t' : Source), ends q.source t' ∧ p.run options origin = q.run options origin ∧
      (p.moved t (p.consumed + ahead)).run options origin =
        (q.moved t' (q.consumed + ahead + surplus)).run options origin) := by
  refine runRelated origin
    (R := fun q r => ∃ spent left t', surplus = spent + left ∧ related left q.source t' ∧
      r = q.moved t' (q.consumed + ahead + spent))
    (S := fun r s => (∃ spent left t', surplus = spent + left ∧ related left r.source t' ∧
        r.CutShort ∧ s = r.moved t' (r.consumed + ahead + spent)) ∨
      (∃ (q : Progress) (t' : Source), ends q.source t' ∧ r = q.run options origin ∧
        s = (q.moved t' (q.consumed + ahead + surplus)).run options origin))
    ?_ ⟨0, surplus, t, by omega, start, rfl⟩
  rintro q _ ⟨spent, left, t', split, going, rfl⟩
  rcases lockstep going with ⟨rfl, ended⟩ |
    ⟨line, other, mid, mid', extra, rest, one, two, same, longer, rfl, next⟩
  · subst split
    exact .inl (.inr ⟨q, t', ended, rfl, rfl⟩)
  · rw [advanceMoved one two same]
    cases step : q.advance options origin with
    | next further =>
      obtain ⟨place, taken⟩ := formatPassed ((advanceLine one).symm.trans step)
      have place : further.source = mid := place
      have taken : further.consumed = q.consumed + line.length := taken
      have count : q.consumed + ahead + spent + other.length =
          further.consumed + ahead + (spent + extra) := by omega
      rw [count]
      exact .inr (.next ⟨spent + extra, rest, mid', by omega, place ▸ next, rfl⟩)
    | stop r =>
      obtain ⟨place, taken, cut⟩ := formatStopped ((advanceLine one).symm.trans step)
      have place : r.source = mid := place
      have taken : r.consumed = q.consumed + line.length := taken
      have count : q.consumed + ahead + spent + other.length =
          r.consumed + ahead + (spent + extra) := by omega
      rw [count]
      exact .inr (.stop (.inl ⟨spent + extra, rest, mid', by omega, place ▸ next, cut, rfl⟩))

end Progress
end HexDump
