import SchemaTypes.Node
import SchemaTypes.Node.Kind

/-!
# Assembling nodes

A matcher and its continuation each build a node, and the two are assembled into one. Where neither
is simply laid over the other, one of the rules below says what the continuation's node becomes: the
types of a schema, the fields of a class, the values of an enumeration, the type of an alias, or the
class nested in a field.
-/

namespace SchemaTypes.Assembly

/-- The nodes a collection holds. -/
def collected (node : Node) : List Node := node.items.getD []

/-- The collected nodes as the types of a schema. -/
def types (schema collection : Node) : Node := { schema with types := some (collected collection) }

/-- The collected nodes as the fields of a class or group. -/
def fields (owner collection : Node) : Node := { owner with fields := some (collected collection) }

/-- The collected nodes as the values of an enumeration. -/
def enumeration (owner collection : Node) : Node :=
  { owner with kind := Kind.enumeration, values := some (collected collection) }

/-- The type an alias stands for, which its restriction carries as a value. -/
def aliasType (owner restriction : Node) : Node :=
  { owner with kind := Kind.aliasType, type := restriction.value.or owner.type }

/-- The collected nodes as the fields of a class nested in a field. The class goes by the type of
the field. -/
def nestedClass (owner collection : Node) : Node :=
  { owner with
    kind := Kind.field
    nestedClass := some
      { kind := Kind.classType, name := owner.fieldType, fields := some (collected collection) } }

end SchemaTypes.Assembly
