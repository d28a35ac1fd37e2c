import SourceText.Proofs.Compact.Outcome
import SourceText.Proofs.Compact.Spread
import SourceText.Proofs.Text.Split

/-!
# Compacting a compact text

Outside the languages of the web a text is compacted by one function of its family, and each of
these changes nothing where it has been used once. So compacting is done in one round
(`compact_compact`), whatever the registry says and whether or not the way of a family fails.
-/

namespace SourceText

theorem collapseCode_collapseCode (text : Text) :
    collapseCode (collapseCode text) = collapseCode text := by
  rw [Compact.collapseCode_squeeze (collapseCode text), Compact.pieces_collapseCode,
    Compact.squeeze_squeeze, Compact.collapseCode_squeeze]

namespace Compactor

theorem reduce_reduce (family : Family) (text : Text) :
    reduce family (reduce family text) = reduce family text := by
  cases family with
  | web => rfl
  | cStyle => exact collapseCode_collapseCode text
  | unknown => exact collapseCode_collapseCode text
  | indentation => exact dropBlankLines_dropBlankLines text
  | other => exact collapseBlanks_collapseBlanks text

/-- Compacting a text again in the same language changes nothing. -/
theorem compact_compact (c : Compactor) (text : Text) (language : Option String)
    (hfamily : c.registry.familyOf (some (c.registry.normalize language)) ≠ .web) :
    ∃ compacted : Text, (c.compact text language).value = compacted.raw ∧
      (c.compact compacted language).value = compacted.raw := by
  by_cases hfails : c.Fails language
  · exact ⟨text, value_compact_of_fails hfails, value_compact_of_fails hfails⟩
  · have hreduce : ∀ text,
        (c.compact text language).value = (reduce (c.familyFor language) text).raw :=
      fun _ => value_compact_reduce hfails hfamily
    refine ⟨reduce (c.familyFor language) text, hreduce text, ?_⟩
    rw [hreduce, reduce_reduce]

theorem compact_compact_open_literal :
    standard.registry.familyOf (some (standard.registry.normalize (some " C++"))) ≠ .web ∧
      (standard.compact "a /* b */\r\n+ 'c  // \\ ".toList (some " C++")).value
        = .ofString "a + 'c  // \\" ∧
      ∃ compacted : Text,
        (standard.compact "a /* b */\r\n+ 'c  // \\ ".toList (some " C++")).value = compacted.raw ∧
          (standard.compact compacted (some " C++")).value = compacted.raw :=
  ⟨by decide +kernel, by decide +kernel, compact_compact standard _ _ (by decide +kernel)⟩

end Compactor
end SourceText
