import ProfileOperator.CommandLine.Arguments
import ProfileOperator.Failure

/-!
# The configuration

What the options amount to, checked and fixed for as long as the program runs.
-/

namespace ProfileOperator

namespace CommandLine

structure Configuration where
  metricsAddress : Net.SocketAddress
  podDefaults : Flag.SelectorTree
  templates : List Template
deriving DecidableEq

/-- The selectors and templates of a pod-defaults specification. -/
def readSpecification (text : String) : Except Failure (Flag.SelectorTree × List Template) := do
  let tree ← (Flag.parse text).mapError .flag
  let templates ← (Template.ofTree tree).mapError .config
  .ok (tree, templates)

def Configuration.ofOptions (options : Options) : Except Failure Configuration := do
  let (tree, templates) ← readSpecification options.podDefaults
  .ok { metricsAddress := options.metricsAddress, podDefaults := tree, templates := templates }

end CommandLine

end ProfileOperator
