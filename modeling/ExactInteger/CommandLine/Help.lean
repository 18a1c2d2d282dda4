/-!
# Help and version

The texts that the program prints about itself.
-/

namespace ExactInteger

namespace CommandLine

def versionText : String :=
  "Sly 0.1"

def helpText : String :=
  "Sly 0.1\n" ++
  "Matthieu Felix <matthieufelix@gmail.com>\n" ++
  "Prints the canonical representation of exact integer literals\n" ++
  "\n" ++
  "USAGE:\n" ++
  "    sly [FLAGS] [OPTIONS] [input-file]\n" ++
  "\n" ++
  "FLAGS:\n" ++
  "    -h, --help           Prints help information\n" ++
  "        --no-readline    Disable readline library\n" ++
  "    -V, --version        Prints version information\n" ++
  "\n" ++
  "OPTIONS:\n" ++
  "        --history-file <history-file>    " ++
  "File to load and save readline history [default: history.txt]\n" ++
  "        --radix <radix>                  " ++
  "Radix of the input literals, between 2 and 36 [default: 10]\n" ++
  "\n" ++
  "ARGS:\n" ++
  "    <input-file>    Sets the input file to use\n"

end CommandLine

end ExactInteger
