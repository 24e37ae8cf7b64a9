import Tabscript.Text.Lines

/-! Lines of a text hold no line feed, whatever the text, and a text without line
feeds is a single line. A line taken out of a text can therefore be read as a text
of its own. -/
namespace Tabscript.TextLines
open Text

variable {held cs : List Char}

theorem segments_without_feed {piece : List Char} (clean : '\n' ∉ held)
    (member : piece ∈ segmentsFrom held cs) : '\n' ∉ piece := by
  induction cs generalizing held with
  | nil =>
    rw [segmentsFrom, List.mem_singleton] at member
    simpa [member] using clean
  | cons c more ih =>
    rw [segmentsFrom] at member
    split at member
    · rcases List.mem_cons.mp member with rfl | later
      · simpa using clean
      · exact ih (by simp) later
    · rename_i other
      refine ih ?_ member
      rw [List.mem_cons]
      rintro (same | inside)
      · exact other same.symm
      · exact clean inside

theorem drop_return_subset (cs : List Char) : dropReturn cs ⊆ cs := by
  unfold dropReturn
  split
  · exact List.dropLast_subset cs
  · exact List.Subset.refl cs

/-- A line is a piece of the text, or such a piece without its carriage return. -/
theorem line_of_segment {pieces : List (List Char)} {line : List Char} (member : line ∈ linesOfSegments pieces) :
    ∃ piece ∈ pieces, line ⊆ piece := by
  fun_induction linesOfSegments pieces with
  | case1 => cases member
  | case2 => cases member
  | case3 last _ =>
    rw [List.mem_singleton.mp member]
    exact ⟨last, by simp, List.Subset.refl _⟩
  | case4 piece more _ ih =>
    rcases List.mem_cons.mp member with rfl | later
    · exact ⟨piece, by simp, drop_return_subset piece⟩
    · obtain ⟨found, inside, part⟩ := ih later
      exact ⟨found, List.mem_cons_of_mem _ inside, part⟩

theorem line_without_feed {text line : String} (member : line ∈ lines text) : '\n' ∉ line.toList := by
  obtain ⟨chars, inside, rfl⟩ := List.mem_map.mp member
  obtain ⟨piece, found, part⟩ := line_of_segment inside
  rw [String.toList_ofList]
  exact fun feed => segments_without_feed (by simp) found (part feed)

theorem segments_single (clean : '\n' ∉ cs) : segmentsFrom held cs = [held.reverse ++ cs] := by
  induction cs generalizing held with
  | nil => simp [segmentsFrom]
  | cons c more ih =>
    have other : c ≠ '\n' := fun same => clean (by simp [same])
    rw [segmentsFrom, if_neg other, ih fun inside => clean (List.mem_cons_of_mem _ inside)]
    simp

theorem lines_single {line : String} (given : line ≠ "") (clean : '\n' ∉ line.toList) : lines line = [line] := by
  have filled : line.toList.isEmpty = false := by simp [given]
  simp [lines, segments, segments_single clean, linesOfSegments, filled]

end Tabscript.TextLines
