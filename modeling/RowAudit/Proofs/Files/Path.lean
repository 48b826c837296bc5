import RowAudit.Files.Path
import RowAudit.Proofs.Text.Pieces

namespace RowAudit.FilePath

theorem within_empty (name : String) : within "" name = name :=
  String.empty_append

theorem exists_toList_within {directory : String} (nonempty : directory ≠ "")
    (name : String) :
    ∃ front, (within directory name).toList = front ++ '/' :: name.toList := by
  rw [within]
  simp only [nonempty, false_or]
  split
  · next slash =>
      obtain ⟨front, whole⟩ :=
        List.getLast?_eq_some_iff.mp (of_decide_eq_true slash)
      exact ⟨front, by simp [whole]⟩
  · exact ⟨directory.toList, by simp⟩

theorem names_of_single {name : String} (single : '/' ∉ name.toList) :
    names name = [name] := by
  rw [names, Text.pieces_of_not_mem single, List.map_singleton,
    String.ofList_toList]

theorem exists_names_within (directory : String) {name : String}
    (single : '/' ∉ name.toList) :
    ∃ before, names (within directory name) = before ++ [name] := by
  by_cases empty : directory = ""
  · subst empty
    exact ⟨[], by rw [within_empty, names_of_single single, List.nil_append]⟩
  · obtain ⟨front, whole⟩ := exists_toList_within empty name
    refine ⟨(Text.pieces '/' front).map String.ofList, ?_⟩
    rw [names, whole, Text.pieces_append_separator,
      Text.pieces_of_not_mem single, List.map_append, List.map_singleton,
      String.ofList_toList]

end RowAudit.FilePath
