import MetricPipeline.Connection
import MetricPipeline.Proofs.Text.Form

/-! A URL of the scheme of connections, with nothing but a query, is read as that query. -/

namespace MetricPipeline

namespace Url

theorem clean_of_visible {s : List Char} (h : ∀ c ∈ s, 32 < c.toNat) : clean s = s := by
  have hspace : ∀ c ∈ s, ¬isC0OrSpace c = true := by
    intro c hc
    have := h c hc
    rw [isC0OrSpace, decide_eq_true_iff]
    omega
  have hbreak : ∀ c ∈ s, (!isTabOrBreak c) = true := by
    intro c hc
    have := h c hc
    simp [isTabOrBreak]
    omega
  have hdrop : ∀ t : List Char, (∀ c ∈ t, c ∈ s) → t.dropWhile isC0OrSpace = t := by
    intro t ht
    exact List.dropWhile_eq_self_iff.2 fun hlength => hspace _ (ht _ (List.getElem_mem hlength))
  rw [clean, hdrop s fun _ hc => hc, hdrop s.reverse fun _ hc => List.mem_reverse.1 hc, List.reverse_reverse,
    List.filter_eq_self.2 hbreak]

/-- A query behind an empty host is the whole of what follows the question mark. -/
theorem parse?_of_query {query : List Char} (hvisible : ∀ c ∈ query, 32 < c.toNat)
    (hsign : '#' ∉ query) :
    parse? ("cloudwatch://?" ++ String.ofList query) =
      some ⟨Connection.scheme, Text.Form.decode query⟩ := by
  have htext : ("cloudwatch://?" ++ String.ofList query).toList =
      "cloudwatch".toList ++ ':' :: '/' :: '/' :: '?' :: query := by
    rw [String.toList_append, show (String.ofList query).toList = query from String.toList_ofList]
    rfl
  have hclean : clean ("cloudwatch".toList ++ ':' :: '/' :: '/' :: '?' :: query) =
      "cloudwatch".toList ++ ':' :: '/' :: '/' :: '?' :: query := by
    have hstart : ∀ c ∈ "cloudwatch://?".toList, decide (32 < c.toNat) = true :=
      List.all_eq_true.1 (by decide)
    refine clean_of_visible fun c hc => ?_
    have hmem : c ∈ "cloudwatch://?".toList ++ query := hc
    exact (List.mem_append.1 hmem).elim (fun hc => of_decide_eq_true (hstart c hc)) (hvisible c)
  have hscheme : scheme? ("cloudwatch".toList ++ ':' :: '/' :: '/' :: '?' :: query) =
      some ("cloudwatch".toList, '/' :: '/' :: '?' :: query) := by
    have hletters : ∀ c ∈ "cloudwatch".toList, isSchemeChar c = true := List.all_eq_true.1 (by decide)
    rw [scheme?, List.takeWhile_append_of_pos hletters, List.dropWhile_append_of_pos hletters,
      List.takeWhile_cons_of_neg (by decide), List.dropWhile_cons_of_neg (by decide), List.append_nil]
    rfl
  have hpath : path? Connection.scheme ('/' :: '/' :: '?' :: query) = some ('?' :: query) := by
    rw [path?, if_neg (by decide), if_neg (by decide)]
    show ite (isAuthority false (('?' :: query).takeWhile _) = true) (some (('?' :: query).dropWhile _)) _ = _
    rw [List.takeWhile_cons_of_neg (by decide), List.dropWhile_cons_of_neg (by decide),
      if_pos (by decide)]
  have hquery : queryText ('?' :: query) = query := by
    have hall : ∀ c ∈ '?' :: query, decide (c ≠ '#') = true := by
      intro c hc
      refine decide_eq_true ?_
      rintro rfl
      rcases List.mem_cons.1 hc with heq | hmem
      · exact absurd heq (by decide)
      · exact hsign hmem
    rw [queryText, List.takeWhile_eq_self_iff.2 hall, List.dropWhile_cons_of_neg (by decide)]
    rfl
  rw [parse?, htext, hclean, hscheme]
  show (path? Connection.scheme _).map _ = _
  rw [hpath, Option.map_some, hquery]
  rfl

end Url

end MetricPipeline
