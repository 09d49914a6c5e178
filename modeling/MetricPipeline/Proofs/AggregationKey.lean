import MetricPipeline.AggregationKey
import MetricPipeline.Proofs.Text.Quoted

/-! The id of a key tells its metric's name and its dimensions apart: two keys have the same id exactly
when they agree in both. -/

namespace MetricPipeline.AggregationKey

open Text

theorem dimensionText_append_inj {d e : Dimension} {s t : List Char}
    (h : dimensionText d ++ s = dimensionText e ++ t) : d = e ∧ s = t := by
  simp only [dimensionText, bracket, List.cons_append, List.append_assoc, List.flatMap_cons,
    List.flatMap_nil, List.nil_append, List.cons.injEq, true_and] at h
  obtain ⟨hname, hrest⟩ := quote_append_inj h
  obtain ⟨hvalue, hend⟩ := quote_append_inj (List.cons.inj hrest).2
  cases d
  cases e
  cases hname
  cases hvalue
  exact ⟨rfl, (List.cons.inj hend).2⟩

theorem dimensionTexts_inj {ds es : List Dimension}
    (h : (ds.map dimensionText).flatMap (',' :: ·) ++ [']'] =
      (es.map dimensionText).flatMap (',' :: ·) ++ [']']) : ds = es := by
  induction ds generalizing es with
  | nil =>
    cases es with
    | nil => rfl
    | cons e es => cases (List.cons.inj h).1
  | cons d ds ih =>
    cases es with
    | nil => cases (List.cons.inj h).1
    | cons e es =>
      simp only [List.map_cons, List.flatMap_cons, List.cons_append, List.append_assoc,
        List.cons.injEq, true_and] at h
      obtain ⟨rfl, hrest⟩ := dimensionText_append_inj h
      rw [ih hrest]

theorem id_eq_iff {a b : AggregationKey} :
    a.id = b.id ↔ a.metric.name = b.metric.name ∧ a.dimensions = b.dimensions := by
  constructor
  · intro h
    have htext : a.idText = b.idText := String.ofList_injective h
    simp only [idText, bracket, List.cons.injEq, true_and, List.append_assoc] at htext
    obtain ⟨hname, hdims⟩ := quote_append_inj htext
    exact ⟨hname, dimensionTexts_inj hdims⟩
  · rintro ⟨hname, hdims⟩
    rw [id, id, idText, idText, hname, hdims]

end MetricPipeline.AggregationKey
