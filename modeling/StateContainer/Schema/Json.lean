/-
This file writes descriptions of types and schemas as trees of the interchange
format.
-/

import StateContainer.Json
import StateContainer.Schema

namespace StateContainer

mutual

/-- The tree of a description. -/
def Descriptor.toJson : Descriptor → Json
  | ⟨name, nullable, arguments⟩ =>
    .object [("qualified_name", .text name), ("nullable", .bool nullable),
      ("type_arguments", .array (Descriptor.allToJson arguments))]

/-- The trees of several descriptions. -/
def Descriptor.allToJson : List Descriptor → List Json
  | [] => []
  | first :: others => first.toJson :: Descriptor.allToJson others

end

/-- The tree of a property. -/
def Property.toJson (p : Property) : Json :=
  .object [("name", .text p.name), ("declared_type", p.type.toJson),
    ("single_read", .bool p.single), ("persisted", .bool p.persisted),
    ("input_only", .bool p.input), ("has_default", .bool p.hasDefault)]

/-- The tree of a definition. -/
def Definition.toJson (d : Definition) : Json :=
  .object [("name", .text d.name), ("module", .text d.moduleName),
    ("view_model", match d.viewModel with | some viewModel => .text viewModel | none => .null)]

/-- The tree of a schema. -/
def Schema.toJson (s : Schema) : Json :=
  .object [("definition", s.definition.toJson),
    ("properties", .array (s.properties.map Property.toJson)),
    ("has_persisted", .bool s.hasPersisted), ("has_input", .bool s.hasInput),
    ("any_persistence", .bool s.anyPersistence)]

end StateContainer
