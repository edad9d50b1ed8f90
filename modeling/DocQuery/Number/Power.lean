/-! Powers.

A power of a natural number or an integer is repeated multiplication, as the core
library defines it. It takes precedence over the powers of algebraic structures, so that
`2 ^ n` is one and the same term in every module. -/

attribute [instance (2000), default_instance 20000] instPowNat
