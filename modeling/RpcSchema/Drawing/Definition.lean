import RpcSchema.Code.Artifact
import RpcSchema.Schema.Compile

/-!
# The schema of the drawing service

The types, commands, events and options of the drawing service in the schema notation, and the
catalogue that is generated from them.

## Main definitions

* `schemaText` — the schema
* `catalogue?` — its catalogue
-/

namespace RpcSchema.Drawing

/-- The lines of the schema. -/
def schemaLines : List String :=
  ["\x7b 'enum': 'Color', 'data': [ 'red', 'green', 'blue' ] \x7d",
    "\x7b 'type': 'Point',",
    "  'data': \x7b 'x': 'int', 'y': 'int', '*label': 'str' \x7d \x7d",
    "\x7b 'type': 'Shape',",
    "  'data': \x7b 'name': 'str', 'points': [ 'Point' ], 'color': 'Color',",
    "            '*origin': \x7b 'x': 'int', 'y': 'int' \x7d \x7d \x7d",
    "\x7b 'type': 'Flags',",
    "  'data': \x7b '*a': 'bool', '*b': 'int', '*c': 'str', '*d': 'number' \x7d \x7d",
    "\x7b 'union': 'Geometry',",
    "  'data': \x7b 'point': 'Point', 'shape': 'Shape', 'radius': 'number' \x7d \x7d",
    "\x7b 'handle': 'FileHandle', 'data': 'int' \x7d",
    "\x7b 'type': 'Orphan', 'data': \x7b 'note': 'str' \x7d \x7d",
    "\x7b 'event': 'SHAPE_CHANGED', 'data': \x7b 'name': 'str', 'color': 'Color' \x7d \x7d",
    "\x7b 'command': 'get-point', 'data': \x7b 'name': 'str' \x7d, 'returns': 'Point' \x7d",
    "\x7b 'command': 'put-shape', 'data': \x7b 'shape': 'Shape' \x7d \x7d",
    "\x7b 'command': 'query-flags', 'data': \x7b 'flags': 'Flags' \x7d, 'returns': 'Flags' \x7d",
    "\x7b 'command': 'describe', 'data': \x7b 'geometry': 'Geometry' \x7d, 'returns': 'str' \x7d",
    "\x7b 'command': 'open-file', 'data': \x7b 'path': 'str' \x7d, 'returns': 'FileHandle' \x7d",
    "\x7b 'command': 'close-file', 'data': \x7b 'file': 'FileHandle' \x7d \x7d",
    "\x7b 'command': 'list-colors', 'returns': [ 'Color' ] \x7d",
    "\x7b 'command': 'echo', 'data': '**', 'returns': 'int' \x7d",
    "\x7b 'command': 'guest-ping', 'data': \x7b '*delay': 'int' \x7d, 'returns': 'int' \x7d",
    "\x7b 'command': 'qmp_capabilities' \x7d",
    "\x7b 'command': 'watch-shape', 'returns': 'SHAPE_CHANGED' \x7d",
    "\x7b 'command': 'put-event', 'data': \x7b 'tag': 'int' \x7d \x7d",
    "\x7b 'option': 'verbose' \x7d",
    "\x7b 'option': 'name', 'data': 'str' \x7d",
    "\x7b 'option': 'origin', 'data': 'Point', 'implicit': 'x' \x7d",
    "\x7b 'option': 'palette', 'data': [ 'Color' ] \x7d"]

/-- The schema as a text. -/
def schemaText : String := "\n".intercalate schemaLines ++ "\n"

/-- The catalogue of the schema, which is there because the schema is accepted. -/
def catalogue? : Option String :=
  match Schema.compile schemaText with
  | .ok schema => some (Code.catalogue (.of schema .default))
  | .error _ => none

end RpcSchema.Drawing
