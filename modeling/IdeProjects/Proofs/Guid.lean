import IdeProjects.Guid
import IdeProjects.Proofs.Lists
import IdeProjects.Proofs.Text.Hex

/-!
# `IdeProjects.Proofs.Guid`: what an identifier is written with

Both descriptors hold identifiers between characters that mean something
to a reader. Whatever name an identifier follows from, it is written with
capital digits, dashes and braces alone (`mem_braced`), so it ends nothing
that it stands in.
-/

set_option autoImplicit false

namespace IdeProjects

namespace Guid

/-- A group has capital digits only. -/
theorem mem_group {c : Char} {bytes : List UInt8} (h : c ∈ group bytes) :
    c ∈ Text.Hex.capitalDigits := by
  obtain ⟨b, _, hb⟩ := List.mem_flatMap.mp h
  exact Text.Hex.mem_digits (by decide) 2 b.toNat hb

/-- So has each of the groups of an identifier. -/
theorem mem_groups {c : Char} {bytes : List UInt8} {cs : List Char} (hcs : cs ∈ groups bytes) (h : c ∈ cs) :
    c ∈ Text.Hex.capitalDigits := by
  simp only [groups, List.mem_cons, List.not_mem_nil, or_false] at hcs
  rcases hcs with rfl | rfl | rfl | rfl | rfl <;> exact mem_group h

/-- The characters of an identifier. -/
def alphabet : List Char := '{' :: '}' :: '-' :: Text.Hex.capitalDigits

/-- Between the groups there are dashes. -/
theorem mem_layout {c : Char} {bytes : List UInt8} (h : c ∈ layout bytes) : c ∈ alphabet := by
  rw [layout] at h
  rcases mem_of_mem_intercalate h with rfl | ⟨cs, hcs, hc⟩
  · decide
  · exact List.mem_append_right ['{', '}', '-'] (mem_groups hcs hc)

/-- Around an identifier there are braces. -/
theorem mem_braced {c : Char} {name : String} (h : c ∈ (braced name).toList) : c ∈ alphabet := by
  have hlayout : (ofName name).toList = layout (Md5.digest (Text.Utf8.encode name)) :=
    String.toList_ofList
  rw [braced, String.toList_append, String.toList_append, hlayout, List.mem_append,
    List.mem_append] at h
  rcases h with (hopen | hname) | hclose
  · rw [List.mem_singleton.mp hopen]
    decide
  · exact mem_layout hname
  · rw [List.mem_singleton.mp hclose]
    decide

/-- A character that identifiers are not made of is in none of them, whatever
the name is. -/
theorem not_mem_braced {c : Char} (h : c ∉ alphabet) (name : String) :
    c ∉ (braced name).toList :=
  fun hc => h (mem_braced hc)

end Guid

end IdeProjects
