/-!
Contract: the navigation of a page.

Keys and buttons go from slide to slide; a counter and a progress bar follow. The script expects
the elements that the page writes: slides by class, buttons, counters and bar by identifier.
-/

namespace SlideDeck.Page

/-- The lines of the script, without the line breaks behind them. -/
def scriptLines : List String :=
  [
    "",
    "        let currentSlide = 0;",
    "        const slides = document.querySelectorAll('.slide');",
    "        const totalSlides = slides.length;",
    "        const prevBtn = document.getElementById('prev');",
    "        const nextBtn = document.getElementById('next');",
    "        const currentSpan = document.getElementById('current');",
    "        const totalSpan = document.getElementById('total');",
    "        const progressBar = document.getElementById('progressBar');",
    "",
    "        totalSpan.textContent = totalSlides;",
    "",
    "        function updateProgress() \x7b",
    "            const progress = ((currentSlide + 1) / totalSlides) * 100;",
    "            progressBar.style.width = progress + '%';",
    "        \x7d",
    "",
    "        function showSlide(n) \x7b",
    "            slides[currentSlide].classList.remove('active');",
    "            currentSlide = (n + totalSlides) % totalSlides;",
    "            slides[currentSlide].classList.add('active');",
    "            currentSpan.textContent = currentSlide + 1;",
    "",
    "            prevBtn.disabled = currentSlide === 0;",
    "            nextBtn.disabled = currentSlide === totalSlides - 1;",
    "",
    "            updateProgress();",
    "        \x7d",
    "",
    "        function changeSlide(direction) \x7b",
    "            showSlide(currentSlide + direction);",
    "        \x7d",
    "",
    "        document.addEventListener('keydown', (e) => \x7b",
    "            if (e.key === 'ArrowLeft' && currentSlide > 0) \x7b",
    "                changeSlide(-1);",
    "            \x7d else if (e.key === 'ArrowRight' && currentSlide < totalSlides - 1) \x7b",
    "                changeSlide(1);",
    "            \x7d",
    "        \x7d);",
    "",
    "        if (window.hljs) \x7b",
    "            hljs.highlightAll();",
    "        \x7d",
    "",
    "        showSlide(0);"
  ]

def navigationScript : String :=
  String.join (scriptLines.map (· ++ "\n"))

end SlideDeck.Page
