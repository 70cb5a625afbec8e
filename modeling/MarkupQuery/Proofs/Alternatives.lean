import MarkupQuery.Proofs.Joining

/-! Alternatives. A comma separates wherever it stands, also inside brackets and quotes, so two
selectors with a comma between them read as the alternatives of both, and find what both find. -/

namespace MarkupQuery

theorem Selector.parse_append_comma (a b : String) :
    Selector.parse (a ++ "," ++ b) = do
      let x ← Selector.parse a
      let y ← (Selector.parse b).mapError (·.shift (byteLength a.toList + 1))
      return x ++ y := by
  have htext : (a ++ "," ++ b).toList = a.toList ++ ',' :: b.toList := by simp
  have hb : ((splitCommas b.toList).map (·.shift (byteLength a.toList + 1))).mapM
        (fun s => Alternative.parseAt s.text s.start) =
      (Selector.parse b).mapError (·.shift (byteLength a.toList + 1)) := by
    rw [List.mapM_map]
    exact Outcome.mapM_mapError fun s _ => Alternative.parseAt_shift s.text s.start _
  rw [Selector.parse, htext, splitCommas, splitCommasFrom_append_comma, splitCommasFrom_shift,
    List.mapM_append, ← splitCommas, ← splitCommas, hb]
  rfl

namespace Scope

variable {s : Scope}

theorem selectParsed_append (roots : List Place) (x y : Selector) :
    s.selectParsed roots (x ++ y) = do
      let ps ← s.selectParsed roots x
      let qs ← s.selectParsed roots y
      return ps ++ qs := by
  unfold selectParsed
  rw [List.mapM_append]
  cases x.mapM (s.selectAlternative roots) with
  | error e => rfl
  | ok ps => cases y.mapM (s.selectAlternative roots) <;> simp

/-- A text that cannot be read fails before anything is searched, whichever side it is on. -/
theorem select_append_comma (roots : List Place) (a b : String) :
    s.select roots (a ++ "," ++ b) = match Selector.parse (a ++ "," ++ b) with
      | .error err => .error (.malformed (a ++ "," ++ b) err)
      | .ok _ => do
        let ps ← s.select roots a
        let qs ← s.select roots b
        return ps ++ qs := by
  unfold select
  rw [Selector.parse_append_comma]
  cases Selector.parse a with
  | error err => rfl
  | ok x =>
    cases Selector.parse b with
    | error err => rfl
    | ok y => exact selectParsed_append roots x y

end Scope

/-- What two texts with a comma between them read as, and what they select. -/
theorem parse_and_select_append_comma (a b : String) :
    (Selector.parse (a ++ "," ++ b) = match Selector.parse a, Selector.parse b with
      | .error err, _ => .error err
      | .ok _, .error err => .error (err.shift (byteLength a.toList + 1))
      | .ok x, .ok y => .ok (x ++ y)) ∧
    ∀ (e : Engine) (roots : List Place), match e.select roots a, e.select roots b with
      | .ok ps, .ok qs => e.select roots (a ++ "," ++ b) = .ok (ps ++ qs)
      | _, _ => ∃ err, e.select roots (a ++ "," ++ b) = .error err := by
  constructor
  · rw [Selector.parse_append_comma]
    cases Selector.parse a with
    | error err => rfl
    | ok x => cases Selector.parse b <;> rfl
  · intro e roots
    simp only [Engine.select, Scope.select_append_comma]
    cases ha : e.scope.select roots a with
    | error err => cases Selector.parse (a ++ "," ++ b) <;> exact ⟨_, rfl⟩
    | ok ps =>
      cases hb : e.scope.select roots b with
      | error err => cases Selector.parse (a ++ "," ++ b) <;> exact ⟨_, rfl⟩
      | ok qs =>
        obtain ⟨x, hx⟩ := Scope.exists_parse_of_select ha
        obtain ⟨y, hy⟩ := Scope.exists_parse_of_select hb
        rw [Selector.parse_append_comma, hx, hy]
        rfl

end MarkupQuery
