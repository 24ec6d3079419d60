import SchemaTypes.Proofs.Pattern.Remarks
import SchemaTypes.Proofs.Schema.Parts
import SchemaTypes.Schema.Reading

/-!
# A schema without its remarks

Annotations and documentation make no difference to what is read from a schema, wherever they stand:
the document without them gives the same.
-/

namespace SchemaTypes.Schema

open Pattern

variable (config : Config) (root : Element)

/-- Remarks make no difference to the grammar by themselves. -/
theorem ignoresRemarks_schema : IgnoresRemarks root (bindings config) (schema config) where
  alternatives := fun _ _ _ inside => isProduction_of_inGraph config inside
  constructors := fun _ _ inside isTerminal cursor _ =>
    (builds_of_inGraph config inside isTerminal cursor).2

/-- A document without its remarks is recognized as what it is recognized as with them. The same
goes for every graph of patterns to which remarks make no difference by themselves, at every depth
and on every cursor that stays, the outermost one included. -/
theorem recognize_withoutRemarks :
    (∀ (config : Config) (root : Element),
      recognize config root.withoutRemarks = recognize config root) ∧
    ∀ (root : Element) (bindings : Bindings) (pattern : Pattern),
      IgnoresRemarks root bindings pattern → ∀ (depth : Int),
        result bindings pattern (some (.root root.withoutRemarks)) depth =
            result bindings pattern (some (.root root)) depth ∧
          ∀ cursor, Cursor.Stays root cursor →
            result bindings pattern (some cursor.withoutRemarks) depth =
              result bindings pattern (some cursor) depth := by
  have general : ∀ (root : Element) (bindings : Bindings) (pattern : Pattern),
      IgnoresRemarks root bindings pattern → ∀ (depth : Int) (cursor : Cursor),
        Cursor.Stays root cursor →
          result bindings pattern (some cursor.withoutRemarks) depth =
            result bindings pattern (some cursor) depth := by
    intro root bindings pattern ignores depth cursor stays
    exact result_of_counterparts ignores (.own (self_mem_parts pattern)) (counterparts_some stays)
      depth
  constructor
  · intro config root
    have same := general root (bindings config) (schema config) (ignoresRemarks_schema config root)
      0 (.root root) .root
    exact congrArg (fun result => result.toOption.join) same
  · intro root bindings pattern ignores depth
    exact ⟨general root bindings pattern ignores depth (.root root) .root,
      general root bindings pattern ignores depth⟩

/-- A schema with a declaration inside a remark and one behind it. -/
def remarked : Element :=
  .mk "schema" [] [
    .mk "annotation" [] [.mk "element" [("name", "draft"), ("type", "xs:string")] []],
    .mk "element" [("name", "city"), ("type", "xs:string")] []]

theorem recognize_withoutRemarks_remarked :
    IgnoresRemarks remarked (bindings {}) (schema {}) ∧
      result (bindings {}) (schema {}) (some (.root remarked.withoutRemarks)) 3 =
        result (bindings {}) (schema {}) (some (.root remarked)) 3 :=
  have ignores := ignoresRemarks_schema {} remarked
  ⟨ignores, (recognize_withoutRemarks.2 remarked (bindings {}) (schema {}) ignores 3).1⟩

end SchemaTypes.Schema
