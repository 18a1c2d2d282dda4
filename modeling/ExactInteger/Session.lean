import ExactInteger.Echo
import ExactInteger.LineSource

/-!
# Sessions

A session requests lines from a source until the input ends.  A line is trimmed
and, unless nothing is left, remembered and echoed; a reading that is no text is
reported.  Every request and what was printed for it is an exchange, and the
request that meets the end of the input is the last one.
-/

namespace ExactInteger

/-- A request for a line and what was printed for it. -/
structure Exchange where
  prompt : String
  printed : List String
  deriving DecidableEq

def Exchange.text (exchange : Exchange) : String :=
  exchange.prompt ++ Text.unlines exchange.printed

namespace Session

/-- Deals with a reading: the lines printed for it, and the source after it. -/
def respond (radix : Nat) (source : LineSource) :
    Reading → Logged (List String × LineSource)
  | .endOfInput => pure ([], source)
  | .undecodable =>
      pure (["Readline error: " ++ Text.undecodableMessage], source)
  | .line text =>
      let entry := Text.trim text
      if entry.isEmpty then
        pure ([], source)
      else do
        let printed ← echo radix entry
        pure (printed, source.remember (String.ofList entry))

/-- Deals with all readings of a source: the exchanges, and the source at the
end. -/
def runPending (radix : Nat) :
    List Reading → LineSource → Logged (List Exchange × LineSource)
  | [], source => pure ([⟨source.prompt, []⟩], source)
  | reading :: pending, source => do
      let (printed, afterReading) ←
        respond radix { source with pending } reading
      (fun (exchanges, afterAll) =>
        (⟨source.prompt, printed⟩ :: exchanges, afterAll)) <$>
          runPending radix pending afterReading

def run (radix : Nat) (source : LineSource) :
    Logged (List Exchange × LineSource) :=
  runPending radix source.pending source

def text (exchanges : List Exchange) : String :=
  String.join (exchanges.map Exchange.text)

end Session

end ExactInteger
