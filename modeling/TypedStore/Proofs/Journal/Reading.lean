import TypedStore.Journal.Entry
import TypedStore.Proofs.Entries
import TypedStore.Proofs.Json.ReadBack
import TypedStore.Proofs.Unicode.ByteOrder

/-!
# Reading lines

The line of an entry ends with its only line feed. What stands before it is read as an object: the
event, the severity, and for each key the last value that was given for it, in the order of the
bytes of the keys. So two lines are the same if and only if they tell the same.
-/

namespace TypedStore

theorem Severity.name_injective {a b : Severity} (h : a.name = b.name) : a = b := by
  cases a <;> cases b <;> first | rfl | (revert h; decide)

namespace Entry

variable (entry other : Entry) (elapsed later : String)

/-- The value of the last field with a key. -/
def lastValue? (key : String) : Option String :=
  Entries.get? key (entry.allFields elapsed).reverse

/-- The fields with the last values of their keys, in the order of the keys. -/
def lastFields : List (String × String) := Entries.ofList (entry.allFields elapsed)

theorem members_eq :
    entry.members elapsed = Json.textMembers
      (("event", entry.event) :: ("severity", entry.severity.name) ::
        entry.lastFields elapsed) := by
  simp [members, Json.textMembers, lastFields, Entries.ofList_map]

/-- What stands before the end of a line is the text of an object. -/
theorem line_eq :
    entry.line elapsed = (Json.object (entry.members elapsed)).text ++ "\n" := by
  rw [line, Json.text, String.ofList_append]

/-- The fields sorted by their keys. Those of one key stay in their order. -/
def sortedFields : List (String × String) :=
  (entry.allFields elapsed).mergeSort fun a b => a.1 ≤ b.1

/-- The fields as members of an object of their own. -/
def sortedMembers : List (String × Json) :=
  Entries.ofList ((entry.sortedFields elapsed).map fun field => (field.1, .string field.2))

/-- The line as it is put together from parts: the members for the fields are written as an object
of their own, whose braces are left out. -/
def splicedLine : String :=
  String.ofList (['{'] ++ "\"event\":".toList ++ (Json.string entry.event).chars ++
    ",\"severity\":".toList ++ (Json.string entry.severity.name).chars ++
    (if entry.sortedFields elapsed = [] then []
      else ',' :: (Json.object (entry.sortedMembers elapsed)).chars.tail.dropLast) ++ ['}', '\n'])

/-- Sorted or not, the fields give the same members. -/
theorem members_eq_sortedMembers :
    entry.members elapsed = ("event", .string entry.event) ::
      ("severity", .string entry.severity.name) :: entry.sortedMembers elapsed := by
  simp only [members, sortedMembers, sortedFields, Entries.ofList_map, Entries.ofList_mergeSort]

theorem sortedMembers_eq_nil_iff :
    entry.sortedMembers elapsed = [] ↔ entry.sortedFields elapsed = [] := by
  rw [sortedMembers, Entries.ofList_eq_nil_iff, List.map_eq_nil_iff]

/-- Put together from parts, the line is the same. -/
theorem splicedLine_eq : entry.splicedLine elapsed = entry.line elapsed := by
  have hevent : "\"event\":".toList = Quoted.quote "event".toList ++ [':'] := by decide
  have hseverity : ",\"severity\":".toList = ',' :: (Quoted.quote "severity".toList ++ [':']) := by
    decide
  have hchars : (Json.object (entry.members elapsed)).chars =
      '{' :: (Quoted.quote "event".toList ++ ':' :: ((Json.string entry.event).chars ++
        ',' :: (Quoted.quote "severity".toList ++ ':' ::
          ((Json.string entry.severity.name).chars ++
            Json.moreMemberChars (entry.sortedMembers elapsed))))) := by
    simp only [members_eq_sortedMembers, Json.chars, Json.memberChars, Json.moreMemberChars]
  unfold splicedLine line
  rw [hchars, Json.moreMemberChars_eq, hevent, hseverity]
  simp only [sortedMembers_eq_nil_iff, List.append_assoc, List.cons_append, List.nil_append]

/-- The fields in order are those with the last values of their keys. -/
theorem mem_lastFields_iff {key value : String} :
    (key, value) ∈ entry.lastFields elapsed ↔ entry.lastValue? elapsed key = some value := by
  rw [lastValue?, ← Entries.get?_ofList, lastFields,
    Entries.get?_eq_some_iff (Entries.sorted_ofList _)]

example : (plain .error "E" [("zebra", "1"), ("apple", "2"), ("zebra", "3")]).lastFields "" =
    [("apple", "2"), ("zebra", "3")] := by decide

theorem lastFields_eq_iff :
    entry.lastFields elapsed = other.lastFields later ↔
      ∀ key, entry.lastValue? elapsed key = other.lastValue? later key := by
  simp only [lastValue?, ← Entries.get?_ofList]
  constructor
  · intro h key
    exact congrArg (Entries.get? key) h
  · exact Entries.eq_of_get?_eq (Entries.sorted_ofList _) (Entries.sorted_ofList _)

/-- What stands before the end of a line is read as the members of its object. -/
theorem readMembers_members :
    Json.readMembers (Json.object (entry.members elapsed)).text = .ok (entry.members elapsed) := by
  rw [members_eq, Json.readMembers_object]

theorem newline_not_mem_text :
    '\n' ∉ (Json.object (entry.members elapsed)).text.toList := by
  rw [members_eq, Json.text, String.toList_ofList]
  exact Json.newline_not_mem_object _

/-- Two lines are the same if and only if they tell the same. -/
theorem line_eq_line_iff :
    entry.line elapsed = other.line later ↔
      entry.severity = other.severity ∧ entry.event = other.event ∧
        entry.lastFields elapsed = other.lastFields later := by
  constructor
  · intro h
    have htext : (Json.object (entry.members elapsed)).text =
        (Json.object (other.members later)).text := by
      have hchars := String.ofList_injective h
      rw [Json.text, Json.text, List.append_cancel_right hchars]
    -- What is read is the same.
    have hread := readMembers_members entry elapsed
    rw [htext, readMembers_members, Except.ok.injEq, members_eq, members_eq] at hread
    have htexts := Json.textMembers_injective hread
    simp only [List.cons.injEq, Prod.mk.injEq, true_and] at htexts
    obtain ⟨hevent, hseverity, hfields⟩ := htexts
    exact ⟨Severity.name_injective hseverity.symm, hevent.symm, hfields.symm⟩
  · rintro ⟨hseverity, hevent, hfields⟩
    rw [line_eq, line_eq, members_eq, members_eq, hseverity, hevent, hfields]

/-- A line is put together from parts to an object on a line of its own. It is read as the event,
the severity, and for each key the last value of it, in the order of the bytes of the keys. Other
entries have the same line if and only if they have the same event, severity, and last values. -/
theorem readMembers_line :
    entry.splicedLine elapsed = entry.line elapsed ∧
    ∃ (body : String) (fields : List (String × String)),
      entry.line elapsed = body ++ "\n" ∧ '\n' ∉ body.toList ∧
      Json.readMembers body = .ok (("event", .string entry.event) ::
        ("severity", .string entry.severity.name) ::
        fields.map fun field => (field.1, .string field.2)) ∧
      (fields.Pairwise fun a b => Unicode.textBytes a.1 < Unicode.textBytes b.1) ∧
      (∀ key value, (key, value) ∈ fields ↔ entry.lastValue? elapsed key = some value) ∧
      ∀ (other : Entry) (later : String), entry.line elapsed = other.line later ↔
        entry.severity = other.severity ∧ entry.event = other.event ∧
          ∀ key, entry.lastValue? elapsed key = other.lastValue? later key := by
  refine ⟨splicedLine_eq entry elapsed, (Json.object (entry.members elapsed)).text,
    entry.lastFields elapsed, line_eq entry elapsed, newline_not_mem_text entry elapsed, ?_, ?_,
    fun key value => mem_lastFields_iff entry elapsed, fun other later => ?_⟩
  · have hread := readMembers_members entry elapsed
    rwa [members_eq] at hread ⊢
  · exact (Entries.sorted_ofList _).imp Unicode.lt_iff_textBytes_lt.mp
  · rw [line_eq_line_iff, lastFields_eq_iff]

end Entry

end TypedStore
