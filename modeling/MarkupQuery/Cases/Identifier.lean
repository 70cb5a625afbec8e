import MarkupQuery.Text.Case

/-! Names as identifiers: `a tag: li` becomes `a_tag_li`. -/

namespace MarkupQuery

/-- The lower case of a name, with underscores for blanks and hyphens and without characters that
are none of letters, digits, blanks, hyphens and underscores. -/
def identifier (name : String) : String :=
  let kept := name.toList.filter fun c => isAlphanumeric c || isBlank c || c == '_' || c == '-'
  String.ofList (lowercase (kept.map fun c => if isBlank c || c == '-' then '_' else c))

/-- No line break, quote or slash stands in an identifier, nor any other character before the digits. -/
theorem zero_le_of_mem_identifier {name : String} {c : Char} (h : c ∈ (identifier name).toList) :
    '0' ≤ c := by
  rw [identifier, String.toList_ofList] at h
  rcases mem_lowerAfter h with h | h
  · obtain ⟨d, hd, rfl⟩ := List.mem_map.mp h
    have hkept := (List.mem_filter.mp hd).2
    simp only [Bool.or_eq_true, beq_iff_eq] at hkept ⊢
    split
    · decide
    · rename_i hother
      rcases hkept with ((hd | hd) | hd) | hd
      · exact zero_le_of_isAlphanumeric hd
      · exact absurd (.inl hd) hother
      · rw [hd]
        decide
      · exact absurd (.inr hd) hother
  · exact UInt32.le_trans (by decide) h

end MarkupQuery
