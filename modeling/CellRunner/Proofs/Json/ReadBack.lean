import CellRunner.Json.Reader
import CellRunner.Proofs.Json.PrintedTokens

/-!
Printed JSON text is read back as the value that was printed, if its numerals are legible and its
containers are not nested more deeply than the reader allows.
-/

namespace CellRunner.Json

namespace Reader

/-- Where a value may come next, its tokens complete it. -/
def Reads (depth : Nat) (value : Value) : Prop :=
  ∀ (stack : List Container) (mayClose : Bool),
    stack.length + depth < depthLimit
    → value.tokens.foldlM step? (.value stack mayClose) = some (complete stack value)

theorem step?_value (stack : List Container) (mayClose : Bool) {token : Token}
    (starts : token ≠ .closeArray)
    : step? (.value stack mayClose) token = startValue? stack token := by
  rw [step?]
  intro _ closing
  exact absurd closing starts

/-- Opening brackets and braces need room for one more container. -/
theorem openContainer?_eq {stack : List Container} {depth : Nat}
    (room : stack.length + (depth + 1) < depthLimit) (opened : State)
    : openContainer? stack opened = some opened := by
  rw [openContainer?, if_pos (by omega)]

/-- The items of an array join those that have been read. -/
theorem read_items {depth : Nat} {stack : List Container} (items : List Value)
    (present : items ≠ []) (each : ∀ item ∈ items, Reads depth item)
    (room : stack.length + (depth + 1) < depthLimit) (done : List Value) (mayClose : Bool)
    : ([Token.comma].intercalate (items.map Value.tokens)).foldlM step?
          (.value (.array done :: stack) mayClose)
      = some (.more (.array (items.reverse ++ done)) stack) := by
  induction items generalizing done mayClose with
  | nil => contradiction
  | cons item rest ih =>
      have first : item.tokens.foldlM step? (.value (.array done :: stack) mayClose)
          = some (.more (.array (item :: done)) stack) :=
        each item List.mem_cons_self _ mayClose (by rw [List.length_cons]; omega)
      have comma : step? (.more (.array (item :: done)) stack) .comma
          = some (.value (.array (item :: done) :: stack) false) :=
        rfl
      cases rest with
      | nil => simpa using first
      | cons second rest =>
          have later := ih (List.cons_ne_nil _ _)
            (fun value member => each value (List.mem_cons_of_mem _ member)) (item :: done) false
          rw [List.map_cons] at later
          simp [List.intercalate_cons_cons, List.foldlM_append, first, comma, later]

/-- The members of an object join those that have been read. -/
theorem read_members {depth : Nat} {stack : List Container} (members : List (String × Value))
    (present : members ≠ []) (each : ∀ member ∈ members, Reads depth member.2)
    (room : stack.length + (depth + 1) < depthLimit) (done : List (String × Value))
    (mayClose : Bool)
    : ∃ name,
        ([Token.comma].intercalate (Value.memberTokens members)).foldlM step?
          (.name stack done mayClose)
        = some (.more (.object (members.reverse ++ done) name) stack) := by
  induction members generalizing done mayClose with
  | nil => contradiction
  | cons member rest ih =>
      obtain ⟨name, value⟩ := member
      have first : (Token.string name :: .colon :: value.tokens).foldlM step?
            (.name stack done mayClose)
          = some (.more (.object ((name, value) :: done) name) stack) :=
        each (name, value) List.mem_cons_self (.object done name :: stack) false
          (by rw [List.length_cons]; omega)
      have comma : [Token.comma].foldlM step? (.more (.object ((name, value) :: done) name) stack)
          = some (.name stack ((name, value) :: done) false) :=
        rfl
      cases rest with
      | nil => exact ⟨name, by simpa [Value.memberTokens] using first⟩
      | cons second rest =>
          obtain ⟨last, later⟩ := ih (List.cons_ne_nil _ _)
            (fun member present => each member (List.mem_cons_of_mem _ present))
            ((name, value) :: done) false
          refine ⟨last, ?_⟩
          rw [Value.memberTokens] at later
          rw [Value.memberTokens, Value.memberTokens, List.intercalate_cons_cons]
          simp only [List.foldlM_append, first, Option.bind_eq_bind, Option.bind_some, comma, later]
          simp

theorem reads_of_readable {depth : Nat} {value : Value} (readable : Value.Readable depth value)
    : Reads depth value := by
  intro stack mayClose room
  induction readable generalizing stack mayClose with
  | null | boolean _ | number _ | string _ =>
      rw [Value.tokens, List.foldlM_cons, step?_value _ _ (by simp)]
      rfl
  | @array depth items _ ih =>
      have opened : step? (.value stack mayClose) .openArray
          = some (.value (.array [] :: stack) true) := by
        rw [step?_value _ _ (by simp)]
        exact openContainer?_eq room _
      cases items with
      | nil => simp [Value.tokens, Value.itemTokens, opened]; rfl
      | cons item items =>
          have inner := read_items (item :: items) (List.cons_ne_nil _ _) ih room [] true
          have closed : step? (.more (.array ((item :: items).reverse ++ [])) stack) .closeArray
              = some (complete stack (.array (item :: items))) := by
            simp [step?]
          rw [Value.tokens, Value.itemTokens_eq, List.foldlM_cons, opened, Option.bind_eq_bind,
            Option.bind_some, List.foldlM_append, inner]
          simpa using closed
  | @object depth members _ ih =>
      have opened : step? (.value stack mayClose) .openObject = some (.name stack [] true) := by
        rw [step?_value _ _ (by simp)]
        exact openContainer?_eq room _
      cases members with
      | nil => simp [Value.tokens, Value.memberTokens, opened]; rfl
      | cons member members =>
          obtain ⟨name, inner⟩ :=
            read_members (member :: members) (List.cons_ne_nil _ _) ih room [] true
          have closed
              : step? (.more (.object ((member :: members).reverse ++ []) name) stack)
                  .closeObject
                = some (complete stack (.object (member :: members))) := by
            simp [step?]
          rw [Value.tokens, List.foldlM_cons, opened, Option.bind_eq_bind, Option.bind_some,
            List.foldlM_append, inner]
          simpa using closed

end Reader

/-- Printed text is read back as the value that was printed. -/
theorem Value.parse?_pretty {depth : Nat} {value : Value} (readable : Readable depth value)
    (shallow : depth < Reader.depthLimit) (level : Nat)
    : Value.parse? (value.pretty level) = some value := by
  have read := Reader.reads_of_readable readable [] false (by simpa using shallow)
  rw [parse?, (scans_pretty readable level).ofText?, Option.bind_some, Reader.ofTokens?, read]
  rfl

/-- An encoder of values, and a reader that undoes it unless the value is nested too deeply. -/
structure Encoding where
  write : Value → String
  read? : String → Option Value
  read_write
    : ∀ {depth value}, Value.Readable depth value → depth < Reader.depthLimit →
        read? (write value) = some value

/-- Values on several lines. -/
def Encoding.pretty : Encoding where
  write := Value.pretty 0
  read? := Value.parse?
  read_write readable shallow := Value.parse?_pretty readable shallow 0

end CellRunner.Json
