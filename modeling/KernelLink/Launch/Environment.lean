import KernelLink.Table

namespace KernelLink
namespace Environment

/-- A variable that tells a program which interpreter it runs in, and would mislead a kernel. -/
def withheld (name : String) : Bool := name = "PYTHONEXECUTABLE"

/-- The inherited variables that a kernel gets to see. -/
def base (inherited : List (String × String)) : Table String :=
  Table.ofLast (inherited.filter fun (name, _) => !withheld name)

/-- Adds the variables of a layer that are not there yet. -/
def merge (t : Table String) (layer : List (String × String)) : Table String :=
  layer.foldl (fun t (name, value) => Table.place name value t) t

/-- The inherited environment with each layer merged in turn. -/
def resolve (inherited : List (String × String)) (layers : List (List (String × String))) :
    Table String :=
  layers.foldl merge (base inherited)

end Environment
end KernelLink
