import SelectBuilder.Query
import SelectBuilder.Text.Quoted

namespace SelectBuilder

/-!
# Options described for a reader

A formatter has no text of its own; a description only says that there is one.
-/

def describeBool (value : Bool) : String :=
  if value then "true" else "false"

def describeOption (text : Option String) : String :=
  text.elim "None" fun text => "Some(" ++ quotedForReader text ++ ")"

/-- What stands for a formatter. -/
def formatterMark : String := "<formatter>"

def QueryOptions.description (options : QueryOptions) : String :=
  "QueryOptions \x7b prepared: " ++ describeBool options.prepared
    ++ ", value_formatter: " ++ describeOption (options.formatter.map fun _ => formatterMark)
    ++ ", database_name: " ++ describeOption options.database ++ " \x7d"

def RenderMode.description : RenderMode -> String
  | .prepared => "Prepared"
  | .inline _ => "Inline(" ++ quotedForReader formatterMark ++ ")"

end SelectBuilder
